import LineScript.Archive.Runs
import LineScript.Archive.Samples
import LineScript.Proofs.Archive.History
import LineScript.Proofs.Except

/-! The log of runs. Recording a run puts one row in front of the log or leaves the tables as they are, and no other
    request touches the log. Rows are numbered upwards, so that the latest stands first. -/

namespace LineScript.Archive

variable {clock : Clock} {a : Archive} {t : Tables} {row : RunRow}

/-- The recorded runs, the latest first; without tables there are none. -/
def runs (a : Archive) : List RunRow := (a.tables.map Tables.runs).getD []

theorem runs_eq (ht : a.tables = some t) : a.runs = t.runs := by
  rw [runs, ht]
  rfl

theorem runs_congr {b : Archive} (h : b.tables = a.tables) : b.runs = a.runs := congrArg (fun t => (t.map Tables.runs).getD []) h

/-! ### Cells -/

theorem cell_str {position : Nat} {t : Text} {c : Cell} (h : Cell.ofJson position (.str t) = .ok c) :
    c = .text t := by
  change Cell.ofText t = .ok c at h
  unfold Cell.ofText at h
  split at h
  · cases h
  · exact (Except.ok.inj h).symm

theorem cell_int {position : Nat} {n : Int} {c : Cell} (h : Cell.ofJson position (.int n) = .ok c) :
    c = .integer n := by
  change (if inRange n = true then Except.ok (Cell.integer n) else .error Refusal.integerTooLarge) = .ok c at h
  split at h
  · exact (Except.ok.inj h).symm
  · cases h

theorem cell_ofText? {position : Nat} {t? : Option Text} {c : Cell}
    (h : Cell.ofJson position (.ofText? t?) = .ok c) : c.textual = t? := by
  cases t? with
  | none =>
    obtain rfl := Except.ok.inj h
    rfl
  | some t =>
    obtain rfl := cell_str h
    rfl

/-! ### Recording -/

/-- A row is made when each value fits its column and there is a status. -/
theorem runRow_ok {id : Nat} {now : Text} {fileName status errorCode outputChars duration : Json}
    (h : runRow id now fileName status errorCode outputChars duration = .ok row) :
    ∃ name state code chars time shown,
      (Cell.ofJson 1 fileName = .ok name ∧ Cell.ofJson 2 status = .ok state ∧ Cell.ofJson 3 errorCode = .ok code ∧
        Cell.ofJson 4 outputChars = .ok chars ∧ Cell.ofJson 5 duration = .ok time) ∧
      state.textual = some shown ∧
      row = ⟨id, name.textual, shown, code.textual, chars.integral, time.integral, now⟩ := by
  obtain ⟨name, hname, h⟩ := bind_ok_iff.mp h
  obtain ⟨state, hstate, h⟩ := bind_ok_iff.mp h
  obtain ⟨code, hcode, h⟩ := bind_ok_iff.mp h
  obtain ⟨chars, hchars, h⟩ := bind_ok_iff.mp h
  obtain ⟨time, htime, h⟩ := bind_ok_iff.mp h
  cases hshown : state.textual with
  | none =>
    rw [hshown] at h
    cases h
  | some shown =>
    rw [hshown] at h
    exact ⟨name, state, code, chars, time, shown, ⟨hname, hstate, hcode, hchars, htime⟩, hshown, (Except.ok.inj h).symm⟩

/-- A run is recorded as one row in front of the others, or the tables stay as they are. -/
theorem saveRun_cases (clock : Clock) (a : Archive) (fileName status errorCode outputChars duration : Json) :
    (∃ t row, a.tables = some t ∧
      runRow (nextId t.runs) (clock (a.readings + 1)) fileName status errorCode outputChars duration = .ok row ∧
      a.saveRun clock fileName status errorCode outputChars duration =
        (.ok row.id, ⟨some { t with runs := row :: t.runs }, a.readings + 1⟩)) ∨
    ∃ e, a.saveRun clock fileName status errorCode outputChars duration =
      (.error e, { a with readings := a.readings + 1 }) := by
  unfold saveRun tick
  cases ht : a.tables with
  | none => exact Or.inr ⟨_, rfl⟩
  | some t =>
    cases hrow : runRow (nextId t.runs) (clock (a.readings + 1)) fileName status errorCode outputChars duration with
    | error e => exact Or.inr ⟨e, by simp only [hrow]⟩
    | ok row => exact Or.inl ⟨t, row, rfl, hrow, by simp only [hrow]⟩

/-! ### Numbers -/

/-- Each row of a log has a larger number than those behind it. -/
def Numbered (rows : List RunRow) : Prop := rows.Pairwise fun later earlier => earlier.id < later.id

theorem numbered_cons (h : Numbered t.runs) (hid : row.id = nextId t.runs) : Numbered (row :: t.runs) := by
  refine List.pairwise_cons.mpr ⟨fun r hr => ?_, h⟩
  rw [hid]
  cases hruns : t.runs with
  | nil =>
    rw [hruns] at hr
    cases hr
  | cons last earlier =>
    rw [hruns] at h hr
    rcases List.mem_cons.mp hr with rfl | hr
    · exact Nat.lt_succ_self _
    · exact Nat.lt_succ_of_lt (List.rel_of_pairwise_cons h hr)

/-! ### Other requests -/

theorem saveFile_runs (clock : Clock) (a : Archive) (name content : Json) :
    (a.saveFile clock name content).2.runs = a.runs := by
  cases ht : a.tables with
  | none =>
    unfold saveFile tick
    cases normalizeName name with
    | error e => rfl
    | ok key => simp only [ht]; exact runs_congr ht.symm
  | some t =>
    rcases saveFile_cases clock ht name content with ⟨key, text, -, -, heq⟩ | ⟨-, e, -, htables⟩
    · rw [heq, runs_eq ht]
      rfl
    · rw [runs_eq ht, runs_eq htables]

theorem deleteFile_runs (a : Archive) (name : Json) : (a.deleteFile name).2.runs = a.runs := by
  cases ht : a.tables with
  | none =>
    have hrefused : ∃ e, a.keyed filesTable name = .error e := by
      unfold keyed tablesFor
      rw [ht]
      cases normalizeName name <;> exact ⟨_, rfl⟩
    obtain ⟨e, he⟩ := hrefused
    rw [deleteFile, he]
  | some t =>
    rcases deleteFile_cases ht name with ⟨key, -, heq⟩ | ⟨e, -, heq⟩
    · rw [heq, runs_eq ht]
      rfl
    · rw [heq]

theorem setUp_runs (a : Archive) : a.setUp.runs = a.runs := by
  cases ht : a.tables with
  | none => rw [runs, runs, setUp, ht]; rfl
  | some t => rw [runs, runs, setUp, ht]; rfl

/-- Adding the samples keeps what every saving keeps. -/
theorem seed_keeps {P : Archive → Prop} (hkeeps : ∀ a name content, P a → P (a.saveFile clock name content).2) (h : P a)
    (files : List (Text × Text)) : P (seed clock a files).2 := by
  fun_induction seed clock a files with
  | case1 | case2 => exact h
  | case3 a name content rest hexists ih => exact ih h
  | case4 a name content rest hexists e b hsave =>
    have hb := hkeeps a (.str name) (.str content) h
    rwa [hsave] at hb
  | case5 a name content rest hexists key b hsave e c hrest ih
  | case6 a name content rest hexists key b hsave names c hrest ih =>
    have hb := hkeeps a (.str name) (.str content) h
    rw [hsave] at hb
    rw [hrest] at ih
    exact ih hb

theorem seed_runs (clock : Clock) (a : Archive) (files : List (Text × Text)) : (seed clock a files).2.runs = a.runs :=
  seed_keeps (P := fun b => b.runs = a.runs) (fun _ _ _ hb => (saveFile_runs ..).trans hb) rfl files

theorem startUp_runs (clock : Clock) (a : Archive) : (a.startUp clock).2.runs = a.runs :=
  (seed_runs clock a.setUp samples).trans (setUp_runs a)

/-! ### Listing -/

/-- With a name that counts as true the log is read for the key of the name. -/
theorem listRuns_named (ht : a.tables = some t) {name : Json} (hname : name.truthy = true) :
    a.listRuns name = (keyOf name).map fun key => t.runs.filter fun row => row.fileName == some key := by
  unfold listRuns keyed tablesFor keyOf
  rw [if_pos hname, ht]
  cases normalizeName name with
  | error e => rfl
  | ok key => cases h : Cell.ofText key <;> simp [bind, Except.bind, h, Except.map, pure, Except.pure]

end LineScript.Archive
