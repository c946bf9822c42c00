import LineScript.Proofs.Archive.Addressing
import LineScript.Proofs.Service.Recording

/-! Answers to requests by name. Saving, reading and deleting a file answer under whatever name they are asked,
    and when they answer with an error the tables are as before. The list of runs has no such answer: of a name that
    nothing is left of when it is cleaned, and of one that cannot be encoded, the refusal is passed on. -/

namespace LineScript

namespace Archive

/-! ### Names that are not kept -/

/-- The names that nothing is left of: blanks, and the ending of a source between blanks. -/
def Nameless (name : Text) : Prop := Text.trim name = [] ∨ Text.trim name = sourceEnding

theorem nameless_iff {name : Text} : Nameless name ↔ cleanName name = [] := by
  rw [Nameless, cleanName]
  cases hdrop : Text.dropEnding? sourceEnding (Text.trim name) with
  | none =>
    have hnot := Text.dropEnding?_eq_none_iff.mp hdrop
    exact ⟨fun h => h.resolve_right fun he => hnot (he ▸ List.suffix_refl _), .inl⟩
  | some stem =>
    have hname := Text.dropEnding?_eq_some_iff.mp hdrop
    constructor
    · rintro (h | h)
      · rw [hname] at h
        cases (List.append_eq_nil_iff.mp h).2
      · obtain rfl : stem = [] := List.append_left_eq_self.mp (hname.symm.trans h)
        rfl
    · intro h
      cases stem with
      | nil => exact .inr hname
      | cons c rest =>
        -- what a trimmed name begins with is not blank
        have hc := Text.isBlank_head_trim (t := name) (c := c) (by rw [hname]; rfl)
        rw [Text.trim_eq_nil_iff.mp h c List.mem_cons_self] at hc
        cases hc

variable {a : Archive} {t : Tables} {name content : Text} {e : Refusal}

theorem normalizeName_nameless (h : Nameless name) : normalizeName (.str name) = .error .emptyName := by
  rw [normalizeName_str, nameless_iff.mp h]
  rfl

theorem keyOf_str (name : Text) : keyOf (.str name) =
    if (cleanName name).isEmpty then .error .emptyName
    else match Text.unencodable? (cleanName name) with
      | some fault => .error (.unencodable fault)
      | none => .ok (cleanName name) := by
  rw [keyOf, normalizeName_str]
  split
  · rfl
  · simp only [bind, Except.bind, Cell.ofText]
    cases Text.unencodable? (cleanName name) <;> rfl

end Archive

namespace Service

open Archive (Nameless Refusal)

variable {clock : Archive.Clock} {a : Archive} {t : Archive.Tables} {name content : Text} {e : Refusal}

/-! ### Refusals of a text -/

theorem blamesText_of_keyOf (h : Archive.keyOf (.str name) = .error e) : blamesText e = true := by
  rw [Archive.keyOf_str] at h
  split at h
  · obtain rfl := Except.error.inj h
    rfl
  · split at h
    · obtain rfl := Except.error.inj h
      rfl
    · cases h

theorem blamesText_of_cell {position : Nat} {u : Text} (h : Archive.Cell.ofJson position (.str u) = .error e) :
    blamesText e = true := by
  rw [Archive.Cell.ofJson, Archive.Cell.ofText] at h
  split at h
  · obtain rfl := Except.error.inj h
    rfl
  · cases h

theorem blamesText_of_fileCells {key : Text} (h : Archive.fileCells key (.str content) = .error e) :
    blamesText e = true := by
  rcases bind_error_iff.mp h with hkey | ⟨c, hc, h⟩
  · exact blamesText_of_cell hkey
  rcases bind_error_iff.mp h with hcontent | ⟨d, hd, h⟩
  · exact blamesText_of_cell hcontent
  · obtain rfl := Archive.cell_str hc
    obtain rfl := Archive.cell_str hd
    cases h

/-- A file that is not saved is refused for its name or its content. -/
theorem blamesText_of_saveFile (ht : a.tables = some t)
    (h : (a.saveFile clock (.str name) (.str content)).1 = .error e) : blamesText e = true := by
  unfold Archive.saveFile Archive.tick at h
  cases hname : Archive.normalizeName (.str name) with
  | error e' =>
    rw [hname] at h
    obtain rfl := Except.error.inj h
    have hkey : Archive.keyOf (.str name) = .error e' := by
      rw [Archive.keyOf, hname]
      rfl
    exact blamesText_of_keyOf hkey
  | ok key =>
    simp only [hname, ht] at h
    cases hcells : Archive.fileCells key (.str content) with
    | error e' =>
      simp only [hcells] at h
      obtain rfl := Except.error.inj h
      exact blamesText_of_fileCells hcells
    | ok cells =>
      simp only [hcells] at h
      cases h

/-! ### Answers -/

/-- An answer is given, and if it tells of an error the tables are as before. -/
def Answered (before : Archive) (r : Except Refusal Json × Archive) : Prop :=
  ∃ answer, r.1 = .ok answer ∧ ((∃ message, answer = errorJson message) → r.2.tables = before.tables)

theorem answerText_blamed (h : blamesText e = true) : answerText (.error e) = .ok (errorJson e.message) := by
  rw [answerText, if_pos h]

theorem obj_ne_errorJson {member : Text} {value : Json} {message : Text} (h : member ≠ "error".toText) :
    Json.obj [(member, value)] ≠ errorJson message := by
  intro heq
  exact h (Prod.mk.inj (List.cons.inj (Json.obj.inj heq)).1).1

theorem saveFile_answered (clock : Archive.Clock) (ht : a.tables = some t) (name content : Text) :
    Answered a (saveFile clock a name content) := by
  rcases Archive.saveFile_cases clock ht (.str name) (.str content) with ⟨key, text, -, -, heq⟩ | ⟨-, e, he, htables⟩
  · refine ⟨.obj [(nameKey, .str key)], ?_, fun ⟨message, h⟩ => absurd h (obj_ne_errorJson (by decide))⟩
    rw [saveFile, heq]
    rfl
  · refine ⟨errorJson e.message, ?_, fun _ => htables.trans ht.symm⟩
    show answerText ((a.saveFile clock (.str name) (.str content)).1.map _) = _
    rw [he]
    exact answerText_blamed (blamesText_of_saveFile ht he)

theorem getFile_answered (ht : a.tables = some t) (name : Text) : Answered a (getFile a name, a) := by
  rw [getFile, Archive.getFile_eq ht]
  cases hkey : Archive.keyOf (.str name) with
  | ok key => exact ⟨_, rfl, fun _ => rfl⟩
  | error e => exact ⟨_, answerText_blamed (blamesText_of_keyOf hkey), fun _ => rfl⟩

theorem deleteFile_answered (ht : a.tables = some t) (name : Text) : Answered a (deleteFile a name) := by
  rcases Archive.deleteFile_cases ht (.str name) with ⟨key, -, heq⟩ | ⟨e, hkey, heq⟩
  · refine ⟨.obj [("deleted".toText, .bool (Archive.findRow? key t.files).isSome)], ?_, fun ⟨message, h⟩ =>
      absurd h (obj_ne_errorJson (by decide))⟩
    rw [deleteFile, heq]
    rfl
  · rw [deleteFile, heq]
    exact ⟨_, answerText_blamed (blamesText_of_keyOf hkey), fun _ => rfl⟩

/-- The refusal of an empty name, as the requests for files answer it. -/
def emptyNameAnswer : Json := errorJson Refusal.emptyName.message

theorem files_of_nameless (clock : Archive.Clock) (a : Archive) (content : Text) (h : Nameless name) :
    saveFile clock a name content = (.ok emptyNameAnswer, a) ∧ getFile a name = .ok emptyNameAnswer ∧
    deleteFile a name = (.ok emptyNameAnswer, a) := by
  have hname := Archive.normalizeName_nameless h
  refine ⟨?_, ?_, ?_⟩
  · rw [saveFile, Archive.saveFile, hname]
    rfl
  · rw [getFile, Archive.getFile, Archive.keyed, hname]
    rfl
  · rw [deleteFile, Archive.deleteFile, Archive.keyed, hname]
    rfl

/-- How the requests for a file are answered. -/
structure FilesAnswer (clock : Archive.Clock) (a : Archive) (name content : Text) : Prop where
  save : Answered a (saveFile clock a name content)
  get : Answered a (getFile a name, a)
  delete : Answered a (deleteFile a name)
  nameless : Nameless name → saveFile clock a name content = (.ok emptyNameAnswer, a) ∧
    getFile a name = .ok emptyNameAnswer ∧ deleteFile a name = (.ok emptyNameAnswer, a)

theorem filesAnswer (clock : Archive.Clock) (ht : a.tables = some t) (name content : Text) :
    FilesAnswer clock a name content where
  save := saveFile_answered clock ht name content
  get := getFile_answered ht name
  delete := deleteFile_answered ht name
  nameless := files_of_nameless clock a content

/-! ### The list of runs -/

theorem listStats_named (ht : a.tables = some t) (hname : name ≠ []) :
    listStats a (some name) =
      (Archive.keyOf (.str name)).map fun key => t.runs.filter fun row => row.fileName == some key :=
  Archive.listRuns_named ht (by simpa [Json.ofText?, Json.truthy] using hname)

/-- How the list of runs is answered: whole without a name, and with one by the rows under its key, unless the name is
    refused. That is not turned into an answer. -/
structure StatsAnswer (a : Archive) (t : Archive.Tables) (name : Text) : Prop where
  unnamed : listStats a none = .ok t.runs
  empty : listStats a (some []) = .ok t.runs
  nameless : name ≠ [] → Nameless name → listStats a (some name) = .error .emptyName
  unencodable : ∀ fault, ¬Nameless name → Text.unencodable? (Archive.cleanName name) = some fault →
    listStats a (some name) = .error (.unencodable fault)
  listed : ¬Nameless name → Text.unencodable? (Archive.cleanName name) = none →
    listStats a (some name) = .ok (t.runs.filter fun row => row.fileName == some (Archive.cleanName name))

theorem statsAnswer (ht : a.tables = some t) (name : Text) : StatsAnswer a t name := by
  have hfilled : ¬Nameless name → name ≠ [] := by
    rintro h rfl
    exact h (.inl rfl)
  have hkey : ¬Nameless name → (Archive.cleanName name).isEmpty = false := fun h => by
    simpa using mt Archive.nameless_iff.mpr h
  refine ⟨?_, ?_, fun hne h => ?_, fun fault h hfault => ?_, fun h hnone => ?_⟩
  · rw [listStats, Archive.listRuns, Archive.tablesFor, ht]
    rfl
  · rw [listStats, Archive.listRuns, Archive.tablesFor, ht]
    rfl
  · rw [listStats_named ht hne, Archive.keyOf, Archive.normalizeName_nameless h]
    rfl
  · rw [listStats_named ht (hfilled h), Archive.keyOf_str, hkey h, hfault]
    rfl
  · rw [listStats_named ht (hfilled h), Archive.keyOf_str, hkey h, hnone]
    rfl

/-! ### Whatever has happened before -/

theorem saveFile_tables (clock : Archive.Clock) (ht : a.tables = some t) (name content : Json) :
    ∃ u, (a.saveFile clock name content).2.tables = some u := by
  rcases Archive.saveFile_cases clock ht name content with ⟨key, text, -, -, heq⟩ | ⟨-, e, -, htables⟩
  · exact ⟨_, congrArg (·.2.tables) heq⟩
  · exact ⟨t, htables⟩

theorem deleteFile_tables (ht : a.tables = some t) (name : Json) : ∃ u, (a.deleteFile name).2.tables = some u := by
  rcases Archive.deleteFile_cases ht name with ⟨key, -, heq⟩ | ⟨e, -, heq⟩
  · exact ⟨_, congrArg (·.2.tables) heq⟩
  · exact ⟨t, (congrArg (·.2.tables) heq).trans ht⟩

theorem saveRun_tables (clock : Archive.Clock) (ht : a.tables = some t)
    (fileName status errorCode outputChars duration : Json) :
    ∃ u, (a.saveRun clock fileName status errorCode outputChars duration).2.tables = some u := by
  rcases Archive.saveRun_cases clock a fileName status errorCode outputChars duration with
    ⟨u, row, -, -, heq⟩ | ⟨e, heq⟩
  · exact ⟨_, congrArg (·.2.tables) heq⟩
  · exact ⟨t, (congrArg (·.2.tables) heq).trans ht⟩

theorem conclude_tables (clock : Archive.Clock) (duration : Int) (ht : a.tables = some t) (fileName : Option Text)
    (outcome : Except Fault Report) : ∃ u, (conclude clock duration a fileName outcome).2.tables = some u := by
  cases outcome with
  | error fault => exact ⟨t, ht⟩
  | ok report =>
    have hrecord : ∃ u, (record clock duration a fileName report).2.tables = some u := by
      unfold record
      split
      · exact ⟨t, ht⟩
      · exact ⟨t, ht⟩
      · exact saveRun_tables clock ht ..
    obtain ⟨u, hu⟩ := hrecord
    refine ⟨u, ?_⟩
    unfold conclude
    dsimp only
    generalize record clock duration a fileName report = recorded at hu ⊢
    rcases recorded with ⟨e | id, b⟩ <;> exact hu

/-- Nothing that happens takes the tables away. -/
theorem tables_step (clock : Archive.Clock) {f : Floor} (ht : f.archive.tables = some t) (e : Event) :
    ∃ u, (f.step clock e).archive.tables = some u := by
  cases e with
  | arrive v => exact ⟨t, ht⟩
  | finish i =>
    refine ⟨t, ?_⟩
    show (f.finish i).archive.tables = some t
    unfold Floor.finish
    split <;> exact ht
  | answer i =>
    show ∃ u, (f.answer clock i).archive.tables = some u
    unfold Floor.answer
    split
    · exact ⟨t, ht⟩
    · exact conclude_tables clock _ ht _ _
  | save name content => exact saveFile_tables clock ht (.str name) (.str content)
  | delete name => exact deleteFile_tables ht (.str name)
  | startUp =>
    refine Archive.seed_keeps (P := fun b => ∃ u, b.tables = some u) (fun b name content hb => ?_) ⟨_, rfl⟩ Archive.samples
    obtain ⟨u, hu⟩ := hb
    exact saveFile_tables clock hu name content

theorem tables_run (clock : Archive.Clock) {f : Floor} (ht : f.archive.tables = some t) (events : List Event) :
    ∃ u, (f.run clock events).archive.tables = some u := by
  induction events generalizing f t with
  | nil => exact ⟨t, ht⟩
  | cons e rest ih =>
    obtain ⟨u, hu⟩ := tables_step clock ht e
    exact ih hu

/-- Whatever has happened since the service opened on an archive with tables, and whatever the name: saving, reading
    and deleting are answered, with an error for a name that nothing is left of, and an error leaves the tables as
    they are. The list of runs is answered without a name and for a name that is kept and can be encoded; for every
    other the refusal is passed on. -/
theorem requests_answered (clock : Archive.Clock) (ht : a.tables = some t) (events : List Event)
    (name content : Text) :
    let b := ((Floor.opened a).run clock events).archive
    FilesAnswer clock b name content ∧ ∃ u, b.tables = some u ∧ StatsAnswer b u name := by
  obtain ⟨u, hu⟩ := tables_run clock (f := Floor.opened a) ht events
  exact ⟨filesAnswer clock hu name content, u, hu, statsAnswer hu name⟩

/-- An ending between a blank and a line end: the files answer with the same error, and the tables stay. -/
theorem requests_answered_ending_alone :
    let b := ((Floor.opened Archive.fresh.setUp).run (fun _ => []) [.startUp, .delete "Functions".toText]).archive
    getFile b "\u2003.swift\n".toText = .ok (errorJson "file name must not be empty".toText) ∧
    saveFile (fun _ => []) b "\u2003.swift\n".toText [] = (.ok (errorJson "file name must not be empty".toText), b) ∧
    listStats b (some "\u2003.swift\n".toText) = .error .emptyName := by
  intro b
  have hname : Nameless "\u2003.swift\n".toText := .inr (by decide)
  obtain ⟨hfiles, u, -, hstats⟩ := requests_answered (fun _ => []) (a := Archive.fresh.setUp) rfl
    [.startUp, .delete "Functions".toText] "\u2003.swift\n".toText []
  obtain ⟨hsave, hget, -⟩ := hfiles.nameless hname
  exact ⟨hget, hsave, hstats.nameless (by decide) hname⟩

/-- A blank alone is a name to list the runs by, and is refused without an answer; the files answer it. -/
theorem stats_of_blank :
    listStats Archive.fresh.setUp (some " ".toText) = .error .emptyName ∧
    getFile Archive.fresh.setUp " ".toText = .ok (errorJson "file name must not be empty".toText) :=
  ⟨rfl, rfl⟩

end Service
end LineScript
