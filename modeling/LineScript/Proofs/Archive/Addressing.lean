import LineScript.Proofs.Archive.History
import LineScript.Proofs.Text.Pieces

/-! The names that the archive gives back. A file is kept under its cleaned name, and cleaning takes off one source
    ending, not more. So a kept name that still ends like a source is cleaned once more when it is used, and
    reaches another file or none; with the ending put behind it, every kept name reaches its own file. -/

namespace LineScript.Archive

variable {a : Archive} {t : Tables} {key : Text} {name content : Json} {row : FileRow}

/-! ### Cleaned names -/

@[simp] theorem trim_cleanName (name : Text) : Text.trim (cleanName name) = cleanName name := by
  rw [cleanName]
  cases Text.dropEnding? sourceEnding (Text.trim name) with
  | none => exact Text.trim_trim name
  | some stem => exact Text.trim_trim stem

/-- A trimmed name is clean when it does not end like a source. -/
theorem cleanName_eq_self_iff (h : Text.trim key = key) : cleanName key = key ↔ ¬sourceEnding <:+ key := by
  rw [← Text.dropEnding?_eq_none_iff, cleanName, h]
  cases hdrop : Text.dropEnding? sourceEnding key with
  | none => exact ⟨fun _ => rfl, fun _ => rfl⟩
  | some stem =>
    have hkey := Text.dropEnding?_eq_some_iff.mp hdrop
    have hshort : (Text.trim stem).length < key.length := by
      have hle := (Text.trim_sublist stem).length_le
      rw [hkey, List.length_append]
      exact Nat.lt_of_le_of_lt hle (Nat.lt_add_of_pos_right (by decide))
    constructor
    · rintro heq
      rw [show Text.trim stem = key from heq] at hshort
      exact absurd hshort (Nat.lt_irrefl _)
    · intro hnone
      cases hnone

/-- One ending behind a trimmed name is what cleaning takes off. -/
theorem cleanName_append_ending (h : Text.trim key = key) (hne : key ≠ []) : cleanName (key ++ sourceEnding) = key := by
  have htrim : Text.trim (key ++ sourceEnding) = key ++ sourceEnding := by
    refine Text.trim_of_ends (fun c hc => ?_) (fun c hc => ?_)
    · rw [List.head?_append_of_ne_nil key hne, ← h] at hc
      exact Text.isBlank_head_trim hc
    · rw [List.getLast?_append] at hc
      obtain rfl := Option.some.inj hc
      decide
  rw [cleanName, htrim, Text.dropEnding?_eq_some_iff.mpr rfl]
  exact h

/-- A cleaned name ends like a source when it was given with two endings, or with blanks between them. -/
theorem ending_cleanName_iff (name : Text) :
    sourceEnding <:+ cleanName name ↔ ∃ stem, Text.trim name = stem ++ sourceEnding ∧ sourceEnding <:+ Text.trim stem := by
  rw [cleanName]
  cases hdrop : Text.dropEnding? sourceEnding (Text.trim name) with
  | none =>
    have hnot := Text.dropEnding?_eq_none_iff.mp hdrop
    exact ⟨fun h => absurd h hnot, fun ⟨stem, hstem, _⟩ => absurd ⟨stem, hstem.symm⟩ hnot⟩
  | some stem =>
    have hname := Text.dropEnding?_eq_some_iff.mp hdrop
    constructor
    · exact fun h => ⟨stem, hname, h⟩
    · rintro ⟨stem', hstem', h⟩
      obtain rfl := List.append_cancel_right (hname.symm.trans hstem')
      exact h

/-! ### Keys -/

/-- A text under which a file can be kept. -/
structure IsKey (key : Text) : Prop where
  trimmed : Text.trim key = key
  filled : key ≠ []
  encodable : Text.unencodable? key = none

theorem ofText_ok_iff : Cell.ofText key = .ok (.text key) ↔ Text.unencodable? key = none := by
  cases h : Text.unencodable? key <;> simp [Cell.ofText, h]

theorem normalizeName_str (t : Text) :
    normalizeName (.str t) = if (cleanName t).isEmpty then .error .emptyName else .ok (cleanName t) := by
  cases t with
  | nil => rfl
  | cons c rest => rfl

theorem normalizeName_ok (h : normalizeName name = .ok key) : ∃ t, name = .str t ∧ cleanName t = key ∧ key ≠ [] := by
  cases name with
  | str t =>
    rw [normalizeName_str] at h
    split at h
    · cases h
    · next hfilled =>
      obtain rfl := Except.ok.inj h
      exact ⟨t, rfl, rfl, by simpa using hfilled⟩
  | _ =>
    unfold normalizeName at h
    split at h <;> cases h

theorem normalizeName_str_ok_iff {t : Text} : normalizeName (.str t) = .ok key ↔ cleanName t = key ∧ key ≠ [] := by
  constructor
  · intro h
    obtain ⟨u, hu, hclean, hne⟩ := normalizeName_ok h
    obtain rfl := Json.str.inj hu
    exact ⟨hclean, hne⟩
  · rintro ⟨rfl, hne⟩
    rw [normalizeName_str, if_neg (by simpa using hne)]

theorem isKey_of_keyOf (h : keyOf name = .ok key) : IsKey key := by
  obtain ⟨hname, hcell⟩ := keyOf_ok_iff.mp h
  obtain ⟨t, -, rfl, hne⟩ := normalizeName_ok hname
  exact ⟨trim_cleanName t, hne, ofText_ok_iff.mp hcell⟩

theorem IsKey.keyOf_iff (hkey : IsKey key) {t : Text} : keyOf (.str t) = .ok key ↔ cleanName t = key := by
  rw [keyOf_ok_iff, normalizeName_str_ok_iff, ofText_ok_iff]
  exact ⟨fun h => h.1.1, fun h => ⟨⟨h, hkey.filled⟩, hkey.encodable⟩⟩

/-- Rows of the table are named by keys. -/
def KeyNamed (t : Tables) : Prop := ∀ row ∈ t.files, IsKey row.name

theorem keyNamed_after (clock : Clock) (r : FileRequest) (ht : a.tables = some t) (h : KeyNamed t) :
    ∃ u, (r.after clock a).tables = some u ∧ KeyNamed u := by
  cases r with
  | get name | holds name | list => exact ⟨t, ht, h⟩
  | save name content =>
    rcases saveFile_cases clock ht name content with ⟨key, text, hkey, -, heq⟩ | ⟨-, e, -, htables⟩
    · refine ⟨_, congrArg (·.2.tables) heq, fun row hrow => ?_⟩
      rcases mem_names_saveRow (List.mem_map_of_mem hrow) with hname | hname
      · rw [hname]
        exact isKey_of_keyOf hkey
      · obtain ⟨old, hold, hname⟩ := List.mem_map.mp hname
        rw [← hname]
        exact h old hold
    · exact ⟨t, htables, h⟩
  | delete name =>
    rcases deleteFile_cases ht name with ⟨key, -, heq⟩ | ⟨e, -, heq⟩
    · exact ⟨_, congrArg (·.2.tables) heq, fun row hrow => h row (List.mem_of_mem_filter hrow)⟩
    · exact ⟨t, by rw [FileRequest.after, heq, ht], h⟩

/-- The rows that requests leave have distinct names, and all of them are keys. -/
theorem Course.tables (clock : Clock) (requests : List FileRequest) :
    ∃ t, (Course.run clock requests).archive.tables = some t ∧ Keyed t.files ∧ KeyNamed t := by
  obtain ⟨t, ht, hkeyed, -⟩ := Course.accounts clock requests
  have hnamed : ∃ u, (Course.run clock requests).archive.tables = some u ∧ KeyNamed u := by
    refine List.foldlRecOn requests _ (motive := fun c : Course => ∃ u, c.archive.tables = some u ∧ KeyNamed u) ?_ ?_
    · exact ⟨⟨[], []⟩, rfl, fun row hrow => absurd hrow List.not_mem_nil⟩
    · rintro c ⟨u, hu, hnamed⟩ r -
      exact keyNamed_after clock r hu hnamed
  obtain ⟨u, hu, hnamed⟩ := hnamed
  obtain rfl := Option.some.inj (ht.symm.trans hu)
  exact ⟨t, ht, hkeyed, hnamed⟩

/-! ### Reaching a row -/

/-- A request by the name reaches the row: it is what is read, and all that is deleted. -/
structure Reaches (a : Archive) (name : Text) (row : FileRow) : Prop where
  get : a.getFile (.str name) = .ok (some row)
  found : (a.deleteFile (.str name)).1 = .ok true
  deleted : ∀ rows, a.listFiles = .ok rows → ∃ rest, (a.deleteFile (.str name)).2.listFiles = .ok rest ∧
    ∀ r, r ∈ rest ↔ r ∈ rows ∧ r ≠ row

/-- No request by the name reaches the row: it is not read, and it outlives a deletion. -/
structure Misses (a : Archive) (name : Text) (row : FileRow) : Prop where
  get : a.getFile (.str name) ≠ .ok (some row)
  kept : ∃ rest, (a.deleteFile (.str name)).2.listFiles = .ok rest ∧ row ∈ rest

theorem listFiles_eq (ht : a.tables = some t) : a.listFiles = .ok (t.files.mergeSort listedBefore) := by
  rw [listFiles, tablesFor, ht]
  rfl

theorem mem_deleteRow_iff (hkeyed : Keyed t.files) (hrow : row ∈ t.files) {r : FileRow} :
    r ∈ deleteRow row.name t.files ↔ r ∈ t.files ∧ r ≠ row := by
  rw [deleteRow, List.mem_filter, bne_iff_ne]
  refine and_congr_right fun hr => not_congr ⟨fun hname => ?_, fun heq => heq ▸ rfl⟩
  have hfind := (mem_iff_findRow? hkeyed).mp hr
  rw [hname, (mem_iff_findRow? hkeyed).mp hrow] at hfind
  exact (Option.some.inj hfind).symm

theorem reaches_of_keyOf (ht : a.tables = some t) (hkeyed : Keyed t.files) (hrow : row ∈ t.files) {name : Text}
    (hname : keyOf (.str name) = .ok row.name) : Reaches a name row := by
  have hfind := (mem_iff_findRow? hkeyed).mp hrow
  rcases deleteFile_cases ht (.str name) with ⟨key, hkey, heq⟩ | ⟨e, hkey, -⟩
  · obtain rfl := Except.ok.inj (hname.symm.trans hkey)
    refine ⟨?_, ?_, fun rows hrows => ⟨(deleteRow row.name t.files).mergeSort listedBefore, ?_, fun r => ?_⟩⟩
    · rw [getFile_eq ht, hname, Except.map, hfind]
    · rw [heq, hfind]
      rfl
    · rw [heq]
      exact listFiles_eq (t := ⟨_, t.runs⟩) rfl
    · obtain rfl := Except.ok.inj ((listFiles_eq ht).symm.trans hrows)
      rw [List.mem_mergeSort, List.mem_mergeSort]
      exact mem_deleteRow_iff hkeyed hrow
  · rw [hname] at hkey
    cases hkey

theorem misses_of_keyOf (ht : a.tables = some t) (hrow : row ∈ t.files) {name : Text}
    (hname : keyOf (.str name) ≠ .ok row.name) : Misses a name row := by
  constructor
  · intro hget
    rw [getFile_eq ht] at hget
    cases hkey : keyOf (.str name) with
    | error e => rw [hkey] at hget; cases hget
    | ok key =>
      rw [hkey] at hget
      have hrowname : row.name = key := by simpa using List.find?_some (Except.ok.inj hget)
      exact hname (hkey.trans (congrArg _ hrowname.symm))
  · rcases deleteFile_cases ht (.str name) with ⟨key, hkey, heq⟩ | ⟨e, -, heq⟩
    · have hother : row.name ≠ key := fun heq => hname (hkey.trans (congrArg _ heq.symm))
      refine ⟨(deleteRow key t.files).mergeSort listedBefore, ?_, List.mem_mergeSort.mpr ?_⟩
      · rw [heq]
        exact listFiles_eq (t := ⟨_, t.runs⟩) rfl
      · exact List.mem_filter.mpr ⟨hrow, bne_iff_ne.mpr hother⟩
    · refine ⟨t.files.mergeSort listedBefore, ?_, List.mem_mergeSort.mpr hrow⟩
      rw [heq]
      exact listFiles_eq ht

/-- How a kept row is reached. -/
structure Addressed (a : Archive) (row : FileRow) : Prop where
  /-- Its name stays as it is when it is cleaned again, unless it ends like a source. -/
  fixed : normalizeName (.str row.name) = .ok row.name ↔ ¬sourceEnding <:+ row.name
  reached : ¬sourceEnding <:+ row.name → Reaches a row.name row
  missed : sourceEnding <:+ row.name → Misses a row.name row
  withEnding : Reaches a (row.name ++ sourceEnding) row

theorem addressed_of_mem (ht : a.tables = some t) (hkeyed : Keyed t.files) (hnamed : KeyNamed t) (hrow : row ∈ t.files) :
    Addressed a row := by
  have hkey := hnamed row hrow
  have hself := cleanName_eq_self_iff hkey.trimmed
  refine ⟨?_, fun h => ?_, fun h => ?_, ?_⟩
  · rw [normalizeName_str_ok_iff, hself]
    exact ⟨fun h => h.1, fun h => ⟨h, hkey.filled⟩⟩
  · exact reaches_of_keyOf ht hkeyed hrow (hkey.keyOf_iff.mpr (hself.mpr h))
  · exact misses_of_keyOf ht hrow fun hname => hself.mp (hkey.keyOf_iff.mp hname) h
  · exact reaches_of_keyOf ht hkeyed hrow (hkey.keyOf_iff.mpr (cleanName_append_ending hkey.trimmed hkey.filled))

/-- After any requests to a new archive, every listed file, and every file that is saved next, is reached by the
    name that the archive gives for it when that name does not end like a source, and not by it otherwise. With the
    ending behind it the name reaches the file in any case. -/
theorem kept_names_reach (clock : Clock) (requests : List FileRequest) :
    (∀ rows, (Course.run clock requests).archive.listFiles = .ok rows →
      ∀ row ∈ rows, Addressed (Course.run clock requests).archive row) ∧
    ∀ name content key, ((Course.run clock requests).archive.saveFile clock name content).1 = .ok key →
      (∃ row, row.name = key ∧ contentText? content = some row.content ∧
        Addressed ((Course.run clock requests).archive.saveFile clock name content).2 row) ∧
      ∀ t, name = .str t →
        (sourceEnding <:+ key ↔ ∃ stem, Text.trim t = stem ++ sourceEnding ∧ sourceEnding <:+ Text.trim stem) := by
  obtain ⟨t, ht, hkeyed, hnamed⟩ := Course.tables clock requests
  constructor
  · intro rows hrows row hrow
    obtain rfl := Except.ok.inj ((listFiles_eq ht).symm.trans hrows)
    exact addressed_of_mem ht hkeyed hnamed (List.mem_mergeSort.mp hrow)
  · intro name content key hsave
    rcases saveFile_cases clock ht name content with ⟨k, text, hkey, htext, heq⟩ | ⟨-, e, he, -⟩
    · have hk : k = key := Except.ok.inj ((congrArg (·.1) heq).symm.trans hsave)
      subst hk
      obtain ⟨u, hu, hnamed'⟩ := keyNamed_after clock (.save name content) ht hnamed
      have htables : (FileRequest.after clock _ (.save name content)).tables = some _ := congrArg (·.2.tables) heq
      obtain rfl := Option.some.inj (htables.symm.trans hu)
      have hfind := findRow?_saveRow k k text (clock ((Course.run clock requests).archive.readings + 1)) t.files
      rw [if_pos rfl] at hfind
      refine ⟨⟨_, rfl, htext, addressed_of_mem hu (hkeyed.saveRow k text _) hnamed' (List.mem_of_find?_eq_some hfind)⟩, ?_⟩
      rintro t rfl
      obtain ⟨hclean, -⟩ := normalizeName_str_ok_iff.mp (keyOf_ok_iff.mp hkey).1
      rw [← hclean]
      exact ending_cleanName_iff t
    · rw [he] at hsave
      cases hsave

/-- A file saved with two endings is kept under a name with one, by which it is neither found nor deleted. -/
theorem two_endings_unreached :
    (fresh.setUp.saveFile (fun _ => []) (.str "a.swift.swift".toText) (.str "x".toText)).1 = .ok "a.swift".toText ∧
      (fresh.setUp.saveFile (fun _ => []) (.str "a.swift.swift".toText) (.str "x".toText)).2.getFile
        (.str "a.swift".toText) = .ok none ∧
      ((fresh.setUp.saveFile (fun _ => []) (.str "a.swift.swift".toText) (.str "x".toText)).2.deleteFile
        (.str "a.swift".toText)).1 = .ok false :=
  ⟨rfl, rfl, rfl⟩

end LineScript.Archive
