import LineScript.Proofs.Archive.Rows

/-! The file table as a map from names to files. Whatever requests a new archive has been given, it answers as
    the changes they made say: what is kept under a name was saved there last, and created when the name was
    first saved since it was last deleted. -/

namespace LineScript.Archive

/-! ### Changes -/

/-- A file as it was saved, and when. -/
structure Saving where
  content : Text
  time : Text

/-- A change to what is kept under a key. -/
inductive Change where
  | saved (key : Text) (saving : Saving)
  | deleted (key : Text)

/-- The key of the file that is changed. -/
def Change.key : Change → Text
  | .saved key _ => key
  | .deleted key => key

variable {clock : Clock} {a : Archive} {t : Tables} {key : Text} {name content : Json}

/-- What was saved under a key since it was last deleted. Changes and savings stand latest first. -/
def savings (key : Text) : List Change → List Saving
  | [] => []
  | .saved k saving :: earlier => if k = key then saving :: savings key earlier else savings key earlier
  | .deleted k :: earlier => if k = key then [] else savings key earlier

/-- The row of a key after the changes: the last saving counts, and the time of the first. -/
def rowAfter (key : Text) (changes : List Change) : Option FileRow :=
  match savings key changes with
  | [] => none
  | last :: earlier => some ⟨key, last.content, ((last :: earlier).getLast (List.cons_ne_nil _ _)).time, last.time⟩

theorem rowAfter_saved (key k : Text) (saving : Saving) (changes : List Change) :
    rowAfter key (.saved k saving :: changes) =
      if k = key then
        some ⟨k, saving.content, ((rowAfter k changes).map (·.created)).getD saving.time, saving.time⟩
      else rowAfter key changes := by
  by_cases h : k = key
  · subst h
    simp only [rowAfter, savings, if_true]
    cases savings k changes with
    | nil => rfl
    | cons last earlier => rfl
  · simp only [rowAfter, savings, if_neg h]

theorem rowAfter_deleted (key k : Text) (changes : List Change) :
    rowAfter key (.deleted k :: changes) = if k = key then none else rowAfter key changes := by
  by_cases h : k = key
  · simp only [rowAfter, savings, if_pos h]
  · simp only [rowAfter, savings, if_neg h]

/-- There is a row when the last change of the key was a saving. -/
theorem rowAfter_isSome_iff (changes : List Change) :
    (rowAfter key changes).isSome = true ↔
      ∃ saving, changes.find? (fun c => c.key == key) = some (.saved key saving) := by
  induction changes with
  | nil => exact ⟨fun h => Bool.noConfusion h, fun ⟨_, h⟩ => nomatch h⟩
  | cons c changes ih =>
    cases c with
    | saved k saving =>
      rw [rowAfter_saved]
      by_cases h : k = key
      · subst h
        rw [if_pos rfl, List.find?_cons_of_pos (by simp [Change.key])]
        exact ⟨fun _ => ⟨saving, rfl⟩, fun _ => rfl⟩
      · rw [if_neg h, List.find?_cons_of_neg (by simpa [Change.key] using h), ih]
    | deleted k =>
      rw [rowAfter_deleted]
      by_cases h : k = key
      · rw [if_pos h, List.find?_cons_of_pos (by simpa [Change.key] using h)]
        exact ⟨fun h => Bool.noConfusion h, fun ⟨_, h⟩ => nomatch h⟩
      · rw [if_neg h, List.find?_cons_of_neg (by simpa [Change.key] using h), ih]

/-! ### Requests -/

/-- A request to the file table. -/
inductive FileRequest where
  | save (name content : Json)
  | delete (name : Json)
  | get (name : Json)
  | holds (name : Json)
  | list

/-- The key for a name, which a column has to be able to hold. -/
def keyOf (name : Json) : Except Refusal Text := do
  let key ← normalizeName name
  let _ ← Cell.ofText key
  return key

/-- What a text column makes of a content. -/
def contentText? (content : Json) : Option Text := (Cell.ofJson 2 content).toOption.bind Cell.textual

theorem contentText?_str {t : Text} (h : Text.unencodable? t = none) : contentText? (.str t) = some t := by
  simp [contentText?, Cell.ofJson, Cell.ofText, h, Except.toOption, Cell.textual]

namespace FileRequest

/-- The key that a request can change something about. -/
def key? : FileRequest → Option Text
  | .save name _ => (normalizeName name).toOption
  | .delete name => (normalizeName name).toOption
  | .get _ | .holds _ | .list => none

/-- The archive after a request. -/
def after (clock : Clock) (a : Archive) : FileRequest → Archive
  | .save name content => (a.saveFile clock name content).2
  | .delete name => (a.deleteFile name).2
  | .get _ | .holds _ | .list => a

/-- What a request that is not refused changes. A saving has the time that the clock shows next. -/
def change? (clock : Clock) (a : Archive) : FileRequest → Option Change
  | .save name content =>
    match normalizeName name, contentText? content, (a.saveFile clock name content).1 with
    | .ok key, some text, .ok _ => some (.saved key ⟨text, clock (a.readings + 1)⟩)
    | _, _, _ => none
  | .delete name =>
    match normalizeName name, (a.deleteFile name).1 with
    | .ok key, .ok _ => some (.deleted key)
    | _, _ => none
  | .get _ | .holds _ | .list => none

end FileRequest

/-! ### One request -/

theorem keyOf_ok_iff : keyOf name = .ok key ↔ normalizeName name = .ok key ∧ Cell.ofText key = .ok (.text key) := by
  unfold keyOf Cell.ofText
  cases normalizeName name with
  | error e => simp [bind, Except.bind]
  | ok k =>
    cases hk : Text.unencodable? k with
    | some fault =>
      simp only [bind, Except.bind, hk, reduceCtorEq, Except.ok.injEq, false_iff, not_and]
      rintro rfl
      simp [hk]
    | none =>
      simp only [bind, Except.bind, hk, pure, Except.pure, Except.ok.injEq]
      exact ⟨fun h => ⟨h, h ▸ by simp [hk]⟩, fun h => h.1⟩

theorem fileCells_ok_iff {cells : Text × Text} :
    fileCells key content = .ok cells ↔
      Cell.ofText key = .ok (.text key) ∧ ∃ text, contentText? content = some text ∧ cells = (key, text) := by
  unfold fileCells contentText?
  have hkey : Cell.ofJson 1 (.str key) = Cell.ofText key := rfl
  rw [hkey]
  cases hk : Text.unencodable? key with
  | some fault => simp [Cell.ofText, hk, bind, Except.bind]
  | none =>
    have htext : Cell.ofText key = .ok (.text key) := by simp [Cell.ofText, hk]
    rw [htext]
    have hname : (Cell.text key).textual = some key := rfl
    cases Cell.ofJson 2 content with
    | error e => simp [bind, Except.bind, Except.toOption]
    | ok cell =>
      cases htextual : cell.textual with
      | none => simp [bind, Except.bind, Except.toOption, hname, htextual]
      | some text => simp [bind, Except.bind, Except.toOption, hname, htextual, pure, Except.pure, eq_comm]

theorem getFile_eq (ht : a.tables = some t) (name : Json) :
    a.getFile name = (keyOf name).map fun key => findRow? key t.files := by
  unfold getFile keyed tablesFor keyOf
  rw [ht]
  cases normalizeName name with
  | error e => rfl
  | ok key => cases h : Cell.ofText key <;> simp [bind, Except.bind, h, Except.map, pure, Except.pure]

/-- A deletion is refused and changes nothing, or it clears the key. -/
theorem deleteFile_cases (ht : a.tables = some t) (name : Json) :
    (∃ key, keyOf name = .ok key ∧ a.deleteFile name =
      (.ok (findRow? key t.files).isSome, { a with tables := some { t with files := deleteRow key t.files } })) ∨
    (∃ e, keyOf name = .error e ∧ a.deleteFile name = (.error e, a)) := by
  unfold deleteFile keyed tablesFor keyOf
  rw [ht]
  cases normalizeName name with
  | error e => exact Or.inr ⟨e, rfl, rfl⟩
  | ok key =>
    cases h : Cell.ofText key with
    | error e => exact Or.inr ⟨e, by simp [bind, Except.bind, h], by simp [bind, Except.bind, h]⟩
    | ok cell =>
      exact Or.inl ⟨key, by simp [bind, Except.bind, h, pure, Except.pure],
        by simp [bind, Except.bind, h, pure, Except.pure]⟩

/-- A saving is refused and leaves the tables as they are, or it sets the row of the key. -/
theorem saveFile_cases (clock : Clock) (ht : a.tables = some t) (name content : Json) :
    (∃ key text, keyOf name = .ok key ∧ contentText? content = some text ∧ a.saveFile clock name content =
      (.ok key, ⟨some { t with files := saveRow key text (clock (a.readings + 1)) t.files }, a.readings + 1⟩)) ∨
    ((∀ key, keyOf name = .ok key → contentText? content = none) ∧
      ∃ e, (a.saveFile clock name content).1 = .error e ∧ (a.saveFile clock name content).2.tables = some t) := by
  unfold saveFile tick
  cases hname : normalizeName name with
  | error e =>
    refine Or.inr ⟨fun key hkey => ?_, e, rfl, ht⟩
    rw [keyOf_ok_iff, hname] at hkey
    cases hkey.1
  | ok key =>
    simp only [ht]
    cases hcells : fileCells key content with
    | error e =>
      refine Or.inr ⟨fun k hk => ?_, e, rfl, rfl⟩
      obtain ⟨hk, hcell⟩ := keyOf_ok_iff.mp hk
      obtain rfl := Except.ok.inj (hname.symm.trans hk)
      cases htext : contentText? content with
      | none => rfl
      | some text =>
        rw [fileCells_ok_iff.mpr ⟨hcell, text, htext, rfl⟩] at hcells
        cases hcells
    | ok cells =>
      obtain ⟨hcell, text, htext, rfl⟩ := fileCells_ok_iff.mp hcells
      exact Or.inl ⟨key, text, keyOf_ok_iff.mpr ⟨hname, hcell⟩, htext, rfl⟩

/-! ### Many requests -/

/-- The changes account for the rows of the archive, which are keyed by their names. -/
def Accounts (a : Archive) (changes : List Change) : Prop :=
  ∃ t, a.tables = some t ∧ Keyed t.files ∧ ∀ key, findRow? key t.files = rowAfter key changes

theorem accounts_setUp : Accounts fresh.setUp [] := ⟨⟨[], []⟩, rfl, keyed_nil, fun _ => rfl⟩

theorem Accounts.after {changes : List Change} (h : Accounts a changes) (r : FileRequest) :
    Accounts (r.after clock a) ((r.change? clock a).toList ++ changes) := by
  obtain ⟨t, ht, hkeyed, hrows⟩ := h
  cases r with
  | get name | holds name | list => exact ⟨t, ht, hkeyed, hrows⟩
  | save name content =>
    rcases saveFile_cases clock ht name content with ⟨key, text, hkey, htext, heq⟩ | ⟨-, e, he, htables⟩
    · have hchange : (FileRequest.save name content).change? clock a =
          some (.saved key ⟨text, clock (a.readings + 1)⟩) := by
        simp [FileRequest.change?, (keyOf_ok_iff.mp hkey).1, htext, heq]
      refine ⟨_, congrArg (·.2.tables) heq, hkeyed.saveRow key text _, fun k => ?_⟩
      rw [hchange, Option.toList_some, List.singleton_append, rowAfter_saved, findRow?_saveRow, hrows, hrows]
    · have hchange : (FileRequest.save name content).change? clock a = none := by
        simp only [FileRequest.change?, he]
        split
        · next h => cases h
        · rfl
      exact ⟨t, htables, hkeyed, by rwa [hchange]⟩
  | delete name =>
    rcases deleteFile_cases ht name with ⟨key, hkey, heq⟩ | ⟨e, -, heq⟩
    · have hchange : (FileRequest.delete name).change? clock a = some (.deleted key) := by
        simp [FileRequest.change?, (keyOf_ok_iff.mp hkey).1, heq]
      refine ⟨_, congrArg (·.2.tables) heq, hkeyed.deleteRow key, fun k => ?_⟩
      rw [hchange, Option.toList_some, List.singleton_append, rowAfter_deleted, findRow?_deleteRow, hrows]
    · have hchange : (FileRequest.delete name).change? clock a = none := by
        simp only [FileRequest.change?, heq]
        split
        · next h => cases h
        · rfl
      refine ⟨t, ?_, hkeyed, by rwa [hchange]⟩
      rw [FileRequest.after, heq, ht]

/-- An archive and the changes that have led to it. -/
structure Course where
  archive : Archive
  changes : List Change

/-- The course of requests to a new archive. -/
def Course.run (clock : Clock) (requests : List FileRequest) : Course :=
  requests.foldl (fun c r => ⟨r.after clock c.archive, (r.change? clock c.archive).toList ++ c.changes⟩)
    ⟨fresh.setUp, []⟩

theorem Course.accounts (clock : Clock) (requests : List FileRequest) :
    Accounts (Course.run clock requests).archive (Course.run clock requests).changes := by
  refine List.foldlRecOn requests _ (motive := fun c : Course => Accounts c.archive c.changes) accounts_setUp ?_
  exact fun c hc r _ => hc.after r

/-! ### Answers -/

/-- The archive answers as the changes say. -/
structure Follows (clock : Clock) (a : Archive) (changes : List Change) : Prop where
  /-- There is a row under a key when the last change of the key was a saving. -/
  present : ∀ key, (rowAfter key changes).isSome = true ↔
    ∃ saving, changes.find? (fun c => c.key == key) = some (.saved key saving)
  get : ∀ name, a.getFile name = (keyOf name).map fun key => rowAfter key changes
  holds : ∀ name, a.fileExists name = (keyOf name).map fun key => (rowAfter key changes).isSome
  delete : ∀ name, (a.deleteFile name).1 = (keyOf name).map fun key => (rowAfter key changes).isSome
  save : ∀ name content key,
    (a.saveFile clock name content).1 = .ok key ↔ keyOf name = .ok key ∧ (contentText? content).isSome = true
  /-- Every row is listed once, the latest modified first and then by name. -/
  list : ∃ rows, a.listFiles = .ok rows ∧ rows.Nodup ∧ rows.Pairwise Precedes ∧
    ∀ row, row ∈ rows ↔ rowAfter row.name changes = some row
  /-- A request changes nothing under other keys. -/
  others : ∀ r name key, keyOf name = .ok key → FileRequest.key? r ≠ some key →
    (r.after clock a).getFile name = a.getFile name
  refusedSave : ∀ name content e, (a.saveFile clock name content).1 = .error e →
    (a.saveFile clock name content).2.tables = a.tables
  refusedDelete : ∀ name e, (a.deleteFile name).1 = .error e → (a.deleteFile name).2.tables = a.tables
  text : ∀ t, Text.unencodable? t = none → contentText? (.str t) = some t

theorem FileRequest.getFile_after (ht : a.tables = some t) (r : FileRequest) (hname : keyOf name = .ok key)
    (hne : r.key? ≠ some key) : (r.after clock a).getFile name = a.getFile name := by
  cases r with
  | get n | holds n | list => rfl
  | save n content =>
    rcases saveFile_cases clock ht n content with ⟨k, text, hk, -, heq⟩ | ⟨-, e, -, htables⟩
    · have hkey : k ≠ key := fun h => hne (by rw [key?, (keyOf_ok_iff.mp hk).1, h]; rfl)
      rw [after, heq, getFile_eq rfl, getFile_eq ht, hname]
      exact congrArg Except.ok ((findRow?_saveRow ..).trans (if_neg hkey))
    · rw [after, getFile_eq htables, getFile_eq ht]
  | delete n =>
    rcases deleteFile_cases ht n with ⟨k, hk, heq⟩ | ⟨e, -, heq⟩
    · have hkey : k ≠ key := fun h => hne (by rw [key?, (keyOf_ok_iff.mp hk).1, h]; rfl)
      rw [after, heq, getFile_eq rfl, getFile_eq ht, hname]
      exact congrArg Except.ok ((findRow?_deleteRow ..).trans (if_neg hkey))
    · rw [after, heq]

theorem Accounts.list {changes : List Change} (h : Accounts a changes) :
    ∃ rows, a.listFiles = .ok rows ∧ rows.Nodup ∧ rows.Pairwise Precedes ∧
      ∀ row, row ∈ rows ↔ rowAfter row.name changes = some row := by
  obtain ⟨t, ht, hkeyed, hrows⟩ := h
  have hperm := List.mergeSort_perm t.files listedBefore
  have hnodup : t.files.Nodup := List.Pairwise.of_map _ (fun _ _ h heq => h (congrArg _ heq)) hkeyed
  refine ⟨t.files.mergeSort listedBefore, by rw [listFiles, tablesFor, ht]; rfl, hperm.nodup_iff.mpr hnodup,
    pairwise_precedes hkeyed, fun row => ?_⟩
  rw [hperm.mem_iff, mem_iff_findRow? hkeyed, hrows]

theorem Accounts.save {changes : List Change} (h : Accounts a changes) (name content : Json) (key : Text) :
    (a.saveFile clock name content).1 = .ok key ↔ keyOf name = .ok key ∧ (contentText? content).isSome = true := by
  obtain ⟨t, ht, -⟩ := h
  rcases saveFile_cases clock ht name content with ⟨k, text, hk, htext, heq⟩ | ⟨hnone, e, he, -⟩
  · rw [heq, hk, htext]
    constructor
    · intro h
      exact ⟨h, rfl⟩
    · exact fun h => h.1
  · rw [he]
    constructor
    · intro h
      cases h
    · rintro ⟨hk, hsome⟩
      rw [hnone key hk] at hsome
      cases hsome

/-- After any requests to a new archive, its answers follow from the changes that they made. -/
theorem files_follow_changes (clock : Clock) (requests : List FileRequest) :
    Follows clock (Course.run clock requests).archive (Course.run clock requests).changes := by
  have haccounts := Course.accounts clock requests
  have ⟨t, ht, _, hrows⟩ := haccounts
  have hget : ∀ name, (Course.run clock requests).archive.getFile name =
      (keyOf name).map fun key => rowAfter key (Course.run clock requests).changes := fun name => by
    simp only [getFile_eq ht, hrows]
  exact {
    present := fun key => rowAfter_isSome_iff _
    get := hget
    holds := fun name => by
      rw [fileExists, hget]
      cases keyOf name <;> rfl
    delete := fun name => by
      rcases deleteFile_cases ht name with ⟨key, hkey, heq⟩ | ⟨e, hkey, heq⟩
      · rw [heq, hkey, hrows]
        rfl
      · rw [heq, hkey]
        rfl
    save := haccounts.save
    list := haccounts.list
    others := fun r name key hname hne => FileRequest.getFile_after ht r hname hne
    refusedSave := fun name content e he => by
      rcases saveFile_cases clock ht name content with ⟨_, _, -, -, heq⟩ | ⟨-, _, -, htables⟩
      · rw [heq] at he
        cases he
      · rw [htables, ht]
    refusedDelete := fun name e he => by
      rcases deleteFile_cases ht name with ⟨_, -, heq⟩ | ⟨_, -, heq⟩
      · rw [heq] at he
        cases he
      · rw [heq]
    text := fun t => contentText?_str }

end LineScript.Archive
