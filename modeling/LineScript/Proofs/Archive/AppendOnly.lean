import LineScript.Proofs.Archive.Addressing
import LineScript.Proofs.Archive.RunLog
import LineScript.Proofs.Program.Variables

/-! The log of runs as a list that only grows. Runs are numbered from one in the order in which they are recorded, a
    refused one takes no number, and what has been recorded stays as it is. The log is read whole, the latest run
    first, or by a name, which leaves the rows under the key of the name. -/

namespace LineScript.Archive

variable {clock : Clock} {a : Archive} {t : Tables} {c : Cell} {v : Json} {position : Nat}

/-! ### Columns -/

/-- A column can hold the value: integers have 64 bits, and texts can be encoded. -/
def Held : Json → Prop
  | .null | .bool _ | .float _ => True
  | .int n => -(2 ^ 63) ≤ n ∧ n ≤ 2 ^ 63 - 1
  | .str t => Text.unencodable? t = none
  | .arr _ | .obj _ => False

/-- The cell for a value that a column can hold. -/
def cellOf (v : Json) : Cell := (Cell.ofJson 0 v).toOption.getD .null

theorem ofJson_of_held (position : Nat) (h : Held v) : Cell.ofJson position v = .ok (cellOf v) := by
  cases v with
  | null | bool b | float x => rfl
  | int n =>
    have hn : inRange n = true := inRange_iff.mpr h
    simp only [cellOf, Cell.ofJson, if_pos hn, Except.toOption, Option.getD_some]
  | str t =>
    have ht : Cell.ofText t = .ok (.text t) := ofText_ok_iff.mpr h
    simp only [cellOf, Cell.ofJson, ht, Except.toOption, Option.getD_some]
  | arr items | obj members => exact h.elim

theorem held_of_ofJson (h : Cell.ofJson position v = .ok c) : Held v := by
  cases v with
  | null | bool b | float x => trivial
  | int n =>
    rw [Cell.ofJson] at h
    split at h
    · next hn => exact inRange_iff.mp hn
    · cases h
  | str t =>
    rw [Cell.ofJson, Cell.ofText] at h
    split at h
    · cases h
    · assumption
  | arr items | obj members => cases h

theorem cellOf_of_ofJson (h : Cell.ofJson position v = .ok c) : cellOf v = c :=
  Except.ok.inj ((ofJson_of_held position (held_of_ofJson h)).symm.trans h)

/-- A text column keeps a text as it is, and no text as null. -/
theorem textual_cellOf {t : Option Text} (h : Held (.ofText? t)) : (cellOf (.ofText? t)).textual = t :=
  cell_ofText? (ofJson_of_held 0 h)

/-- An integer column keeps an integer as it is. -/
theorem integral_cellOf {n : Int} (h : Held (.int n)) : (cellOf (.int n)).integral = .integer n := by
  rw [cell_int (ofJson_of_held 0 h)]
  rfl

/-! ### Entries -/

/-- What is to be recorded of a run. -/
structure RunEntry where
  fileName : Json
  status : Json
  errorCode : Json
  outputChars : Json
  duration : Json

namespace RunEntry

variable {e : RunEntry} {id : Nat} {now : Text}

/-- What is bound to the columns of the new row, in their order. -/
def values (e : RunEntry) : List Json := [e.fileName, e.status, e.errorCode, e.outputChars, e.duration]

/-- A row can hold the entry: each column can hold its value, and there is a status. -/
structure Recordable (e : RunEntry) : Prop where
  held : ∀ v ∈ e.values, Held v
  status : (cellOf e.status).textual ≠ none

/-- The row for an entry. -/
def row (e : RunEntry) (id : Nat) (now : Text) : RunRow where
  id := id
  fileName := (cellOf e.fileName).textual
  status := (cellOf e.status).textual.getD []
  errorCode := (cellOf e.errorCode).textual
  outputChars := (cellOf e.outputChars).integral
  duration := (cellOf e.duration).integral
  created := now

/-- Records the entry. -/
def save (clock : Clock) (a : Archive) (e : RunEntry) : Except Refusal Nat × Archive :=
  a.saveRun clock e.fileName e.status e.errorCode e.outputChars e.duration

theorem runRow_ok_iff {r : RunRow} :
    runRow id now e.fileName e.status e.errorCode e.outputChars e.duration = .ok r ↔ e.Recordable ∧ r = e.row id now := by
  constructor
  · intro h
    obtain ⟨name, state, code, chars, time, shown, ⟨hname, hstate, hcode, hchars, htime⟩, hshown, rfl⟩ := runRow_ok h
    have hheld : ∀ v ∈ e.values, Held v := by
      simp [values, held_of_ofJson hname, held_of_ofJson hstate, held_of_ofJson hcode, held_of_ofJson hchars,
        held_of_ofJson htime]
    have hstatus := cellOf_of_ofJson hstate
    refine ⟨⟨hheld, by simp [hstatus, hshown]⟩, ?_⟩
    rw [row, hstatus, hshown, cellOf_of_ofJson hname, cellOf_of_ofJson hcode, cellOf_of_ofJson hchars,
      cellOf_of_ofJson htime]
    rfl
  · rintro ⟨⟨hheld, hstatus⟩, rfl⟩
    obtain ⟨shown, hshown⟩ := Option.ne_none_iff_exists'.mp hstatus
    simp only [values, List.forall_mem_cons] at hheld
    obtain ⟨hname, hstate, hcode, hchars, htime, -⟩ := hheld
    rw [runRow, ofJson_of_held 1 hname, ofJson_of_held 2 hstate, ofJson_of_held 3 hcode, ofJson_of_held 4 hchars,
      ofJson_of_held 5 htime]
    simp only [bind, Except.bind, hshown, pure, Except.pure, row, Option.getD_some]

theorem save_of_recordable (clock : Clock) (ht : a.tables = some t) (h : e.Recordable) :
    e.save clock a = (.ok (nextId t.runs),
      ⟨some { t with runs := e.row (nextId t.runs) (clock (a.readings + 1)) :: t.runs }, a.readings + 1⟩) := by
  have hrow : runRow (nextId t.runs) (clock (a.readings + 1)) e.fileName e.status e.errorCode e.outputChars e.duration =
      .ok (e.row (nextId t.runs) (clock (a.readings + 1))) := runRow_ok_iff.mpr ⟨h, rfl⟩
  rw [save, saveRun, tick]
  simp only [ht, hrow]
  rfl

/-- An entry that no row can hold is refused, and only the clock has been read. -/
theorem save_refused (clock : Clock) (a : Archive) (h : ¬e.Recordable) :
    ∃ refusal, e.save clock a = (.error refusal, { a with readings := a.readings + 1 }) := by
  rcases saveRun_cases clock a e.fileName e.status e.errorCode e.outputChars e.duration with ⟨t, row, -, hrow, -⟩ | hrefused
  · exact absurd (runRow_ok_iff.mp hrow).1 h
  · exact hrefused

end RunEntry

/-! ### Requests to the log -/

/-- A request to the log. -/
inductive LogRequest where
  | save (entry : RunEntry)
  | list (fileName : Json)

/-- An entry that was recorded, when, and the number that was answered. -/
structure Recorded where
  id : Nat
  entry : RunEntry
  time : Text

/-- The row that is kept of what was recorded. -/
def Recorded.row (r : Recorded) : RunRow := r.entry.row r.id r.time

namespace LogRequest

/-- The archive after a request. -/
def after (clock : Clock) (a : Archive) : LogRequest → Archive
  | .save entry => (entry.save clock a).2
  | .list _ => a

/-- What a request records. -/
def recorded? (clock : Clock) (a : Archive) : LogRequest → Option Recorded
  | .save entry =>
    match (entry.save clock a).1 with
    | .ok id => some ⟨id, entry, clock (a.readings + 1)⟩
    | .error _ => none
  | .list _ => none

end LogRequest

/-- An archive and what was recorded on the way to it, the latest first. -/
structure LogCourse where
  archive : Archive
  recorded : List Recorded

/-- The course goes on with a request. -/
def LogCourse.next (clock : Clock) (c : LogCourse) (r : LogRequest) : LogCourse :=
  ⟨r.after clock c.archive, (r.recorded? clock c.archive).toList ++ c.recorded⟩

/-- The course of requests to a new archive. -/
def LogCourse.run (clock : Clock) (requests : List LogRequest) : LogCourse :=
  requests.foldl (LogCourse.next clock) ⟨fresh.setUp, []⟩

/-! ### The log -/

/-- The log of the archive has a row for each entry that was recorded, and they are numbered from one. -/
structure LogHolds (a : Archive) (recorded : List Recorded) : Prop where
  rows : ∃ files, a.tables = some ⟨files, recorded.map Recorded.row⟩
  recordable : ∀ r ∈ recorded, r.entry.Recordable
  numbered : (recorded.map (·.id)).reverse = List.range' 1 recorded.length

variable {recorded : List Recorded}

theorem LogHolds.nextId (h : LogHolds a recorded) : nextId (recorded.map Recorded.row) = recorded.length + 1 := by
  cases recorded with
  | nil => rfl
  | cons last earlier =>
    -- the numbers end with how many there are, and the first row has the last of them
    have hnumbered := h.numbered
    rw [List.map_cons, List.reverse_cons, List.length_cons, List.range'_1_concat] at hnumbered
    have hlast := List.singleton_inj.mp (List.append_inj' hnumbered rfl).2
    rw [List.map_cons, Archive.nextId, List.length_cons]
    show last.id + 1 = earlier.length + 1 + 1
    omega

theorem LogHolds.after (h : LogHolds a recorded) (r : LogRequest) :
    LogHolds (r.after clock a) ((r.recorded? clock a).toList ++ recorded) := by
  cases r with
  | list name => exact h
  | save entry =>
    obtain ⟨files, htables⟩ := h.rows
    by_cases hrecordable : entry.Recordable
    · have hsave := RunEntry.save_of_recordable clock htables hrecordable
      simp only [h.nextId] at hsave
      have hrecorded : (LogRequest.save entry).recorded? clock a =
          some ⟨recorded.length + 1, entry, clock (a.readings + 1)⟩ := by
        simp only [LogRequest.recorded?, hsave]
      rw [hrecorded, LogRequest.after, hsave]
      refine ⟨⟨files, rfl⟩, List.forall_mem_cons.mpr ⟨hrecordable, h.recordable⟩, ?_⟩
      rw [Option.toList_some, List.singleton_append, List.map_cons, List.reverse_cons, h.numbered, List.length_cons,
        List.range'_1_concat, Nat.add_comm]
    · obtain ⟨refusal, hsave⟩ := RunEntry.save_refused clock a hrecordable
      have hrecorded : (LogRequest.save entry).recorded? clock a = none := by
        simp only [LogRequest.recorded?, hsave]
      rw [hrecorded, LogRequest.after, hsave]
      exact ⟨⟨files, htables⟩, h.recordable, h.numbered⟩

theorem LogCourse.logs (clock : Clock) (requests : List LogRequest) :
    LogHolds (LogCourse.run clock requests).archive (LogCourse.run clock requests).recorded := by
  refine List.foldlRecOn requests _ (motive := fun c : LogCourse => LogHolds c.archive c.recorded) ?_ ?_
  · exact ⟨⟨[], rfl⟩, List.forall_mem_nil _, rfl⟩
  · exact fun c hc r _ => hc.after r

/-- More requests only put rows in front. -/
theorem LogCourse.recorded_append (clock : Clock) (requests more : List LogRequest) :
    ∃ newer, (LogCourse.run clock (requests ++ more)).recorded = newer ++ (LogCourse.run clock requests).recorded := by
  rw [LogCourse.run, List.foldl_append]
  refine List.foldlRecOn more _ (motive := fun c : LogCourse => ∃ newer, c.recorded = newer ++ _) ⟨[], rfl⟩ ?_
  rintro c ⟨newer, h⟩ r -
  exact ⟨(r.recorded? clock c.archive).toList ++ newer, by rw [LogCourse.next, h, List.append_assoc]⟩

/-! ### Answers -/

/-- The archive answers as one whose log has these entries, the latest first. -/
structure AnswersLog (clock : Clock) (a : Archive) (recorded : List Recorded) : Prop where
  save : ∀ (entry : RunEntry) id, (entry.save clock a).1 = .ok id ↔ entry.Recordable ∧ id = recorded.length + 1
  refused : ∀ entry : RunEntry, ¬entry.Recordable →
    ∃ refusal, entry.save clock a = (.error refusal, { a with readings := a.readings + 1 })
  whole : ∀ name : Json, name.truthy = false → a.listRuns name = .ok (recorded.map Recorded.row)
  nameless : ∀ name, name ≠ [] →
    (a.listRuns (.str name) = .error .emptyName ↔ normalizeName (.str name) = .error .emptyName)
  named : ∀ name key, normalizeName (.str name) = .ok key → Text.unencodable? key = none →
    a.listRuns (.str name) = .ok ((recorded.map Recorded.row).filter fun row => row.fileName == some key)

/-- A row holds the texts and integers of an entry as they were given. -/
structure RunEntry.KeptIn (e : RunEntry) (row : RunRow) : Prop where
  fileName : ∀ name, e.fileName = .ofText? name → row.fileName = name
  status : ∀ status, e.status = .str status → row.status = status
  errorCode : ∀ code, e.errorCode = .ofText? code → row.errorCode = code
  outputChars : (e.outputChars = .null → row.outputChars = .null) ∧
    ∀ n, e.outputChars = .int n → row.outputChars = .integer n
  duration : (e.duration = .null → row.duration = .null) ∧ ∀ n, e.duration = .int n → row.duration = .integer n

theorem RunEntry.Recordable.keptIn {e : RunEntry} (h : e.Recordable) (id : Nat) (now : Text) : e.KeptIn (e.row id now) := by
  obtain ⟨fileName, status, errorCode, outputChars, duration⟩ := e
  have hheld := h.held
  simp only [values, List.forall_mem_cons] at hheld
  obtain ⟨hname, hstatus, hcode, hchars, htime, -⟩ := hheld
  refine ⟨?_, ?_, ?_, ⟨?_, ?_⟩, ?_, ?_⟩
  · rintro name rfl
    exact textual_cellOf hname
  · rintro status rfl
    exact congrArg (·.getD []) (textual_cellOf (t := some status) hstatus)
  · rintro code rfl
    exact textual_cellOf hcode
  · rintro rfl
    rfl
  · rintro n rfl
    exact integral_cellOf hchars
  · rintro rfl
    rfl
  · rintro n rfl
    exact integral_cellOf htime

/-- Without a status, or with an integer beyond 64 bits, an entry is not recorded. -/
theorem not_recordable {e : RunEntry}
    (h : e.status = .null ∨ ∃ n, .int n ∈ e.values ∧ ¬(-(2 ^ 63) ≤ n ∧ n ≤ 2 ^ 63 - 1)) : ¬e.Recordable := by
  rintro ⟨hheld, hstatus⟩
  rcases h with h | ⟨n, hmem, hn⟩
  · rw [h] at hstatus
    exact hstatus rfl
  · exact hn (hheld _ hmem)

theorem keyOf_nameless_iff {name : Json} :
    keyOf name = .error .emptyName ↔ normalizeName name = .error .emptyName := by
  rw [keyOf]
  cases normalizeName name with
  | error e => rfl
  | ok key =>
    simp only [bind, Except.bind, Cell.ofText]
    cases Text.unencodable? key <;> simp [pure, Except.pure]

theorem LogHolds.answers (h : LogHolds a recorded) : AnswersLog clock a recorded := by
  obtain ⟨files, ht⟩ := h.rows
  have hfilled {name : Text} (hname : name ≠ []) : (Json.str name).truthy = true := by simpa [Json.truthy] using hname
  refine ⟨fun entry id => ?_, fun entry => RunEntry.save_refused clock a, fun name hname => ?_, fun name hname => ?_,
    fun name key hkey hencodable => ?_⟩
  · by_cases hrecordable : entry.Recordable
    · rw [RunEntry.save_of_recordable clock ht hrecordable, h.nextId]
      exact ⟨fun hok => ⟨hrecordable, (Except.ok.inj hok).symm⟩, fun hok => congrArg Except.ok hok.2.symm⟩
    · obtain ⟨refusal, hsave⟩ := RunEntry.save_refused clock a hrecordable
      rw [hsave]
      exact ⟨fun hok => (nomatch hok), fun hok => absurd hok.1 hrecordable⟩
  · rw [listRuns, if_neg (by simp [hname]), tablesFor, ht]
    rfl
  · rw [listRuns_named ht (hfilled hname), ← keyOf_nameless_iff]
    cases keyOf (.str name) <;> simp [Except.map]
  · have hname : name ≠ [] := by
      rintro rfl
      cases hkey
    rw [listRuns_named ht (hfilled hname), keyOf_ok_iff.mpr ⟨hkey, ofText_ok_iff.mpr hencodable⟩]
    rfl

theorem LogHolds.descending (h : LogHolds a recorded) : Numbered (recorded.map Recorded.row) := by
  have hascending : (recorded.map (·.id)).reverse.Pairwise (· < ·) := h.numbered ▸ List.pairwise_lt_range'
  exact List.pairwise_map.mpr (List.pairwise_map.mp (List.pairwise_reverse.mp hascending))

/-- After any requests to a new archive, the runs that were recorded are numbered from one without gaps, the log has a
    row for each of them with what was given, and what is requested next neither changes nor removes a row. A run that
    cannot be recorded leaves the tables as they are. Read without a name the log is whole, and by a name it is the
    rows under the key of the name. -/
theorem log_only_grows (clock : Clock) (requests : List LogRequest) :
    let c := LogCourse.run clock requests
    AnswersLog clock c.archive c.recorded ∧
    ((c.recorded.map (·.id)).reverse = List.range' 1 c.recorded.length ∧ Numbered (c.recorded.map Recorded.row)) ∧
    (∀ r ∈ c.recorded, r.entry.Recordable ∧ r.entry.KeptIn r.row) ∧
    (∀ e : RunEntry, e.status = .null ∨ (∃ n, .int n ∈ e.values ∧ ¬(-(2 ^ 63) ≤ n ∧ n ≤ 2 ^ 63 - 1)) →
      ¬e.Recordable) ∧
    ∀ more, ∃ newer, (LogCourse.run clock (requests ++ more)).recorded = newer ++ c.recorded := by
  have h := LogCourse.logs clock requests
  exact ⟨h.answers, ⟨h.numbered, h.descending⟩,
    fun r hr => ⟨h.recordable r hr, (h.recordable r hr).keptIn r.id r.time⟩, fun e => not_recordable,
    LogCourse.recorded_append clock requests⟩

/-- Between the two runs that are recorded one has no status and one took too long. -/
theorem log_only_grows_past_refusals :
    let first : RunRow := ⟨1, some "a".toText, "ok".toText, none, .integer 5, .integer 7, []⟩
    let second : RunRow := ⟨2, none, "error".toText, some "E".toText, .null, .integer 1, []⟩
    let c := LogCourse.run (fun _ => []) [.save ⟨.str "a".toText, .str "ok".toText, .null, .int 5, .int 7⟩,
      .save ⟨.str "a".toText, .null, .null, .int 5, .int 7⟩,
      .save ⟨.null, .str "ok".toText, .null, .int 5, .int (2 ^ 63)⟩, .list (.str "a".toText),
      .save ⟨.null, .str "error".toText, .str "E".toText, .null, .int 1⟩]
    c.archive.listRuns .null = .ok [second, first] ∧
      c.archive.listRuns (.str " a.swift".toText) = .ok [first] ∧
      c.archive.listRuns (.str " ".toText) = .error .emptyName := by
  intro first second c
  have hanswers : AnswersLog (fun _ => []) c.archive c.recorded := (log_only_grows _ _).1
  have hrows : c.recorded.map Recorded.row = [second, first] := by rfl
  have hnamed := hanswers.named " a.swift".toText "a".toText rfl rfl
  have hblank := (hanswers.nameless " ".toText (by decide)).mpr rfl
  rw [hrows] at hnamed
  exact ⟨(hanswers.whole .null rfl).trans (congrArg _ hrows), hnamed, hblank⟩

/-- A lone surrogate is a name like others, but no rows can be asked for under it. -/
theorem listRuns_of_surrogate :
    normalizeName (.str [.surrogate 0]) = .ok [.surrogate 0] ∧
      (LogCourse.run (fun _ => []) []).archive.listRuns (.str [.surrogate 0]) =
        .error (.unencodable ⟨0, 1, .surrogate 0⟩) :=
  ⟨rfl, rfl⟩

end LineScript.Archive
