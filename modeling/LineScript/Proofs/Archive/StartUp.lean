import LineScript.Proofs.Archive.Addressing
import LineScript.Proofs.Archive.RunLog

/-! Starting up on an archive in any state. A sample is saved where no file has its name, as a new row behind the
    others, and nothing else is touched: not a file that has been saved in its place, and not the log of runs. After
    that no sample is missing, so that starting up again leaves the archive as it is. -/

namespace LineScript.Archive

variable {clock : Clock} {a : Archive} {t : Tables} {key name content now : Text} {rows : List FileRow} {row : FileRow}
  {files : List (Text × Text)}

/-- The kept files; without tables there are none. -/
def kept (a : Archive) : List FileRow := (a.tables.map Tables.files).getD []

/-- The given files whose names no row has, in their order. -/
def missing (rows : List FileRow) (files : List (Text × Text)) : List (Text × Text) :=
  files.filter fun file => file.1 ∉ rows.map (·.name)

/-- The rows of files that are saved one after the other for the first time, after so many readings of the clock. -/
def newRows (clock : Clock) (readings : Nat) : List (Text × Text) → List FileRow
  | [] => []
  | (name, content) :: rest =>
    ⟨name, content, clock (readings + 1), clock (readings + 1)⟩ :: newRows clock (readings + 1) rest

/-! ### One sample -/

theorem findRow?_isSome_iff : (findRow? name rows).isSome = true ↔ name ∈ rows.map (·.name) := by
  simp [findRow?]

/-- A file whose name no row has becomes a new row behind the others. -/
theorem saveRow_of_not_mem (h : name ∉ rows.map (·.name)) :
    saveRow name content now rows = rows ++ [⟨name, content, now, now⟩] := by
  induction rows with
  | nil => rfl
  | cons row rest ih =>
    obtain ⟨hrow, hrest⟩ := not_or.mp (mt List.mem_cons.mpr h)
    rw [saveRow, if_neg (Ne.symm hrow), ih hrest, List.cons_append]

/-- A file that is kept under its name as it stands, with its content. -/
structure Seedable (file : Text × Text) : Prop where
  key : keyOf (.str file.1) = .ok file.1
  content : contentText? (.str file.2) = some file.2

theorem fileExists_of_seedable (ht : a.tables = some t) (h : Seedable (name, content)) :
    a.fileExists (.str name) = .ok (decide (name ∈ t.files.map (·.name))) := by
  rw [fileExists, getFile_eq ht, h.key]
  exact congrArg Except.ok (Bool.eq_iff_iff.mpr (findRow?_isSome_iff.trans decide_eq_true_iff.symm))

theorem saveFile_of_seedable (ht : a.tables = some t) (h : Seedable (name, content)) (hnew : name ∉ t.files.map (·.name)) :
    a.saveFile clock (.str name) (.str content) =
      (.ok name, ⟨some { t with files := t.files ++ newRows clock a.readings [(name, content)] }, a.readings + 1⟩) := by
  rcases saveFile_cases clock ht (.str name) (.str content) with ⟨key, text, hkey, htext, heq⟩ | ⟨hnone, -⟩
  · obtain rfl := Except.ok.inj (h.key.symm.trans hkey)
    obtain rfl := Option.some.inj (h.content.symm.trans htext)
    rw [heq, saveRow_of_not_mem hnew]
    rfl
  · have hcontent := hnone name h.key
    rw [h.content] at hcontent
    cases hcontent

/-! ### All samples -/

theorem missing_append_of_not_mem (h : row.name ∉ files.map (·.1)) :
    missing (rows ++ [row]) files = missing rows files := by
  refine List.filter_congr fun file hfile => ?_
  have hne : file.1 ≠ row.name := by
    intro heq
    exact h (heq ▸ List.mem_map_of_mem hfile)
  simp [hne]

theorem missing_cons_of_mem {file : Text × Text} (h : file.1 ∈ rows.map (·.name)) :
    missing rows (file :: files) = missing rows files :=
  List.filter_cons_of_neg (by simpa using h)

theorem missing_cons_of_not_mem {file : Text × Text} (h : file.1 ∉ rows.map (·.name)) :
    missing rows (file :: files) = file :: missing rows files :=
  List.filter_cons_of_pos (by simpa using h)

/-- What is missing is saved, and the names of that are given. -/
theorem seed_eq (clock : Clock) (ht : a.tables = some t) (hseedable : ∀ file ∈ files, Seedable file)
    (hdistinct : (files.map (·.1)).Nodup) :
    seed clock a files = (.ok ((missing t.files files).map (·.1)),
      ⟨some { t with files := t.files ++ newRows clock a.readings (missing t.files files) },
        a.readings + (missing t.files files).length⟩) := by
  induction files generalizing a t with
  | nil =>
    obtain ⟨tables, readings⟩ := a
    obtain rfl : tables = some t := ht
    simp [seed, missing, newRows]
  | cons file rest ih =>
    obtain ⟨name, content⟩ := file
    obtain ⟨hfirst, hrest⟩ := List.forall_mem_cons.mp hseedable
    obtain ⟨hname, hdistinct⟩ := List.nodup_cons.mp hdistinct
    rw [seed, fileExists_of_seedable ht hfirst]
    by_cases hmem : name ∈ t.files.map (·.name)
    · simp only [hmem, decide_true]
      rw [ih ht hrest hdistinct, missing_cons_of_mem hmem]
    · simp only [hmem, decide_false]
      rw [saveFile_of_seedable ht hfirst hmem]
      have hmore : missing (t.files ++ newRows clock a.readings [(name, content)]) rest = missing t.files rest :=
        missing_append_of_not_mem hname
      have hseed := ih rfl hrest hdistinct
        (a := ⟨some { t with files := t.files ++ newRows clock a.readings [(name, content)] }, a.readings + 1⟩)
      rw [hmore] at hseed
      have hmissing : missing t.files ((name, content) :: rest) = (name, content) :: missing t.files rest :=
        missing_cons_of_not_mem hmem
      simp only [hseed]
      rw [hmissing, List.map_cons, List.length_cons, newRows, newRows, newRows, List.append_assoc, List.singleton_append,
        Nat.add_right_comm, Nat.add_assoc]

theorem names_newRows (clock : Clock) (readings : Nat) (files : List (Text × Text)) :
    (newRows clock readings files).map (·.name) = files.map (·.1) := by
  induction files generalizing readings with
  | nil => rfl
  | cons file rest ih => rw [newRows, List.map_cons, ih, List.map_cons]

/-- Once they are saved nothing is missing. -/
theorem missing_newRows (clock : Clock) (readings : Nat) (rows : List FileRow) (files : List (Text × Text)) :
    missing (rows ++ newRows clock readings (missing rows files)) files = [] := by
  refine List.filter_eq_nil_iff.mpr fun file hfile => ?_
  rw [decide_eq_true_eq, not_not, List.map_append, List.mem_append, names_newRows]
  by_cases hmem : file.1 ∈ rows.map (·.name)
  · exact .inl hmem
  · exact .inr (List.mem_map_of_mem (List.mem_filter.mpr ⟨hfile, decide_eq_true hmem⟩))

/-! ### Starting up -/

/-- The text of a program is one of characters. -/
theorem isScalar_program (lines : List String) : Text.isScalar (program lines) = true := by
  rw [Text.isScalar_iff]
  intro c hc
  obtain ⟨line, -, hc⟩ := List.mem_flatMap.mp hc
  exact Text.isScalar_iff.mp (Text.isScalar_toText _) c hc

theorem samples_seedable : ∀ file ∈ samples, Seedable file := by
  have hseedable (name : String) (lines : List String) (hclean : cleanName name.toText = name.toText)
      (hfilled : name.toText ≠ []) : Seedable (name.toText, program lines) := by
    have hname := Text.unencodable?_of_isScalar (Text.isScalar_toText name)
    exact ⟨keyOf_ok_iff.mpr ⟨normalizeName_str_ok_iff.mpr ⟨hclean, hfilled⟩, ofText_ok_iff.mpr hname⟩,
      contentText?_str (Text.unencodable?_of_isScalar (isScalar_program lines))⟩
  rw [samples, List.forall_mem_cons, List.forall_mem_cons, List.forall_mem_singleton]
  exact ⟨hseedable _ _ (by decide) (by decide), hseedable _ _ (by decide) (by decide),
    hseedable _ _ (by decide) (by decide)⟩

theorem samples_distinct : (samples.map (·.1)).Nodup := by decide

theorem startUp_eq (clock : Clock) (a : Archive) :
    a.startUp clock = (.ok ((missing a.kept samples).map (·.1)),
      ⟨some ⟨a.kept ++ newRows clock a.readings (missing a.kept samples), a.runs⟩,
        a.readings + (missing a.kept samples).length⟩) := by
  have htables : a.setUp.tables = some ⟨a.kept, a.runs⟩ := by
    rw [setUp, kept, runs]
    cases a.tables <;> rfl
  exact seed_eq clock htables samples_seedable samples_distinct

/-- Starting up, whatever has happened to the archive before, leaves all rows of files and the log of runs as they are.
    Behind the files it adds a row for each sample whose name none of them has, and it gives the names of these, in
    the order of the samples. Starting up again gives none and changes nothing, not even the readings of the clock. -/
theorem startUp_adds_missing (clock : Clock) (a : Archive) :
    (a.startUp clock).1 = .ok ((missing a.kept samples).map (·.1)) ∧
    (a.startUp clock).2.tables =
      some ⟨a.kept ++ newRows clock a.readings (missing a.kept samples), a.runs⟩ ∧
    ∀ again, (a.startUp clock).2.startUp again = (.ok [], (a.startUp clock).2) := by
  refine ⟨by rw [startUp_eq], by rw [startUp_eq], fun again => ?_⟩
  have hnone : missing (a.startUp clock).2.kept samples = [] := by
    rw [startUp_eq]
    exact missing_newRows clock a.readings a.kept samples
  rw [startUp_eq again, hnone, startUp_eq clock a]
  simp [kept, runs, newRows]

end LineScript.Archive
