import LineScript.Archive.Files
import LineScript.Proofs.Text.Surrogates

/-! Rows of the file table, one equation for each operation. A table is read by name; saving sets one name and
    deleting clears one, and both leave every other name alone. No two rows share a name, so the listing
    has each row once, in an order without ties. -/

namespace LineScript

/-! ### The order of texts -/

namespace CodePoint

theorem toNat_injective {c d : CodePoint} (h : c.toNat = d.toNat) : c = d := by
  rw [← ofNat_toNat c, h, ofNat_toNat]

instance : Trans (α := CodePoint) (· < ·) (· < ·) (· < ·) := ⟨Nat.lt_trans⟩

instance : Std.Irrefl (α := CodePoint) (· < ·) := ⟨fun c => Nat.lt_irrefl c.toNat⟩

instance : Std.Asymm (α := CodePoint) (· < ·) := ⟨fun _ _ h => Nat.lt_asymm h⟩

instance : Std.Trichotomous (α := CodePoint) (· < ·) :=
  ⟨fun _ _ h h' => toNat_injective (Nat.le_antisymm (Nat.not_lt.mp h') (Nat.not_lt.mp h))⟩

end CodePoint

theorem Text.lt_or_eq_of_not_lt {t u : Text} (h : ¬u < t) : t < u ∨ t = u := by
  by_cases hlt : t < u
  · exact Or.inl hlt
  · exact Or.inr (List.le_antisymm (List.not_lt.mp h) (List.not_lt.mp hlt))

namespace Archive

variable {key name content now : Text} {rows : List FileRow} {row : FileRow}

/-! ### Reading by name -/

theorem findRow?_cons (key : Text) (row : FileRow) (rows : List FileRow) :
    findRow? key (row :: rows) = if row.name = key then some row else findRow? key rows := by
  by_cases h : row.name = key <;> simp [findRow?, h]

/-- A saved row is new, or it keeps the time of its creation. -/
theorem findRow?_saveRow (key name content now : Text) (rows : List FileRow) :
    findRow? key (saveRow name content now rows) =
      if name = key then some ⟨name, content, ((findRow? name rows).map (·.created)).getD now, now⟩
      else findRow? key rows := by
  induction rows with
  | nil => rw [saveRow, findRow?_cons]; rfl
  | cons row rest ih =>
    unfold saveRow
    by_cases hrow : row.name = name
    · rw [if_pos hrow, findRow?_cons, findRow?_cons name, if_pos hrow, findRow?_cons, hrow]
      by_cases hkey : name = key
      · rw [if_pos hkey, if_pos hkey]
        rfl
      · rw [if_neg hkey, if_neg hkey, if_neg hkey]
    · rw [if_neg hrow, findRow?_cons, findRow?_cons name, if_neg hrow, ih, findRow?_cons]
      by_cases hkey : name = key
      · rw [if_neg (hkey ▸ hrow), if_pos hkey, if_pos hkey]
      · rw [if_neg hkey, if_neg hkey]

theorem findRow?_deleteRow (key name : Text) (rows : List FileRow) :
    findRow? key (deleteRow name rows) = if name = key then none else findRow? key rows := by
  induction rows with
  | nil => exact (ite_self none).symm
  | cons row rest ih =>
    rw [findRow?_cons]
    by_cases hrow : row.name = name
    · rw [show deleteRow name (row :: rest) = deleteRow name rest from List.filter_cons_of_neg (by simp [hrow]), ih]
      by_cases hkey : name = key
      · rw [if_pos hkey, if_pos hkey]
      · rw [if_neg hkey, if_neg hkey, if_neg (hrow ▸ hkey)]
    · rw [show deleteRow name (row :: rest) = row :: deleteRow name rest from List.filter_cons_of_pos (by simp [hrow]),
        findRow?_cons, ih]
      by_cases hkey : name = key
      · rw [if_neg (hkey ▸ hrow), if_pos hkey, if_pos hkey]
      · rw [if_neg hkey, if_neg hkey]

/-! ### Distinct names -/

/-- No two rows have the same name. -/
def Keyed (rows : List FileRow) : Prop := (rows.map (·.name)).Nodup

theorem keyed_nil : Keyed [] := List.nodup_nil

theorem mem_iff_findRow? (h : Keyed rows) : row ∈ rows ↔ findRow? row.name rows = some row := by
  constructor
  · intro hmem
    induction rows with
    | nil => cases hmem
    | cons first rest ih =>
      obtain ⟨hfirst, hrest⟩ := List.nodup_cons.mp h
      rw [findRow?_cons]
      rcases List.mem_cons.mp hmem with rfl | hmem
      · exact if_pos rfl
      · have hname : row.name ∈ rest.map (·.name) := List.mem_map_of_mem hmem
        have hne : first.name ≠ row.name := by
          intro heq
          rw [← heq] at hname
          exact hfirst hname
        rw [if_neg hne]
        exact ih hrest hmem
  · exact List.mem_of_find?_eq_some

theorem mem_names_saveRow {n : Text} (h : n ∈ (saveRow name content now rows).map (·.name)) :
    n = name ∨ n ∈ rows.map (·.name) := by
  induction rows with
  | nil => exact Or.inl (List.mem_singleton.mp h)
  | cons row rest ih =>
    unfold saveRow at h
    split at h
    · exact Or.inr h
    · rcases List.mem_cons.mp h with rfl | h
      · exact Or.inr List.mem_cons_self
      · exact (ih h).imp id (List.mem_cons_of_mem _)

theorem Keyed.saveRow (h : Keyed rows) (name content now : Text) : Keyed (saveRow name content now rows) := by
  induction rows with
  | nil => exact List.nodup_cons.mpr ⟨List.not_mem_nil, List.nodup_nil⟩
  | cons row rest ih =>
    obtain ⟨hrow, hrest⟩ := List.nodup_cons.mp h
    unfold Archive.saveRow
    split
    · exact h
    · next hne =>
      refine List.nodup_cons.mpr ⟨fun hmem => ?_, ih hrest⟩
      exact (mem_names_saveRow hmem).elim hne hrow

theorem Keyed.deleteRow (h : Keyed rows) (name : Text) : Keyed (deleteRow name rows) :=
  h.sublist ((List.filter_sublist).map _)

/-! ### Listing -/

/-- The row was modified later, or at the same time under a lesser name. -/
def Precedes (a b : FileRow) : Prop := b.modified < a.modified ∨ (a.modified = b.modified ∧ a.name < b.name)

theorem listedBefore_iff {a b : FileRow} :
    listedBefore a b = true ↔ Precedes a b ∨ (a.modified = b.modified ∧ a.name = b.name) := by
  have hname : ¬b.name < a.name ↔ a.name < b.name ∨ a.name = b.name := by
    refine ⟨Text.lt_or_eq_of_not_lt, ?_⟩
    rintro (hlt | heq)
    · exact List.lt_asymm hlt
    · exact heq ▸ List.lt_irrefl _
  simp only [listedBefore, Precedes, Bool.or_eq_true, Bool.and_eq_true, decide_eq_true_eq, beq_iff_eq, Bool.not_eq_true',
    decide_eq_false_iff_not, hname, and_or_left, or_assoc]

theorem listedBefore_trans (a b c : FileRow) (hab : listedBefore a b = true) (hbc : listedBefore b c = true) :
    listedBefore a c = true := by
  rw [listedBefore_iff] at hab hbc ⊢
  rcases hab with (hab | ⟨hab, hab'⟩) | ⟨hab, hab'⟩ <;> rcases hbc with (hbc | ⟨hbc, hbc'⟩) | ⟨hbc, hbc'⟩
  · exact Or.inl (Or.inl (List.lt_trans hbc hab))
  · exact Or.inl (Or.inl (hbc ▸ hab))
  · exact Or.inl (Or.inl (hbc ▸ hab))
  · exact Or.inl (Or.inl (hab ▸ hbc))
  · exact Or.inl (Or.inr ⟨hab.trans hbc, List.lt_trans hab' hbc'⟩)
  · exact Or.inl (Or.inr ⟨hab.trans hbc, hbc' ▸ hab'⟩)
  · exact Or.inl (Or.inl (hab ▸ hbc))
  · exact Or.inl (Or.inr ⟨hab.trans hbc, hab' ▸ hbc'⟩)
  · exact Or.inr ⟨hab.trans hbc, hab'.trans hbc'⟩

theorem listedBefore_total (a b : FileRow) : (listedBefore a b || listedBefore b a) = true := by
  rw [Bool.or_eq_true, listedBefore_iff, listedBefore_iff]
  by_cases hm : b.modified < a.modified
  · exact Or.inl (Or.inl (Or.inl hm))
  rcases Text.lt_or_eq_of_not_lt hm with hm | hm
  · exact Or.inr (Or.inl (Or.inl hm))
  by_cases hn : b.name < a.name
  · exact Or.inr (Or.inl (Or.inr ⟨hm.symm, hn⟩))
  rcases Text.lt_or_eq_of_not_lt hn with hn | hn
  · exact Or.inl (Or.inl (Or.inr ⟨hm, hn⟩))
  · exact Or.inl (Or.inr ⟨hm, hn⟩)

/-- Rows with distinct names are listed in an order that leaves nothing open. -/
theorem pairwise_precedes (h : Keyed rows) : (rows.mergeSort listedBefore).Pairwise Precedes := by
  have hperm := List.mergeSort_perm rows listedBefore
  have hnames : (rows.mergeSort listedBefore).Pairwise fun a b => a.name ≠ b.name :=
    List.pairwise_map.mp ((hperm.map FileRow.name).nodup_iff.mpr h)
  refine ((List.pairwise_mergeSort listedBefore_trans listedBefore_total rows).and hnames).imp ?_
  rintro a b ⟨hle, hne⟩
  exact (listedBefore_iff.mp hle).resolve_right fun heq => hne heq.2

end Archive

end LineScript
