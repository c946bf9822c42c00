import LineScript.Proofs.Text.Pieces

/-! Where a piece stands first, and a mark last. The text behind the first place of an opening is cut at its last
    closing mark; that fails only where no mark is left there, however many stand before or in the opening. -/

namespace LineScript.Text

variable {piece opening t before after content rest : Text} {mark closing : CodePoint}

/-- The piece stands in the text between `before` and `after`, and nowhere sooner. -/
structure FirstAt (piece t before after : Text) : Prop where
  parts : t = before ++ piece ++ after
  first : ∀ before' after', t = before' ++ piece ++ after' → before.length ≤ before'.length

theorem FirstAt.unique {before' after' : Text} (h : FirstAt piece t before after)
    (h' : FirstAt piece t before' after') : before' = before ∧ after' = after := by
  have hlength : before'.length = before.length :=
    Nat.le_antisymm (h'.first before after h.parts) (h.first before' after' h'.parts)
  have hsame : before' ++ (piece ++ after') = before ++ (piece ++ after) := by
    rw [← List.append_assoc, ← List.append_assoc, ← h.parts, ← h'.parts]
  obtain ⟨hbefore, hrest⟩ := List.append_inj hsame hlength
  exact ⟨hbefore, List.append_cancel_left hrest⟩

theorem cut?_first (h : cut? piece t = some (before, after)) : FirstAt piece t before after := by
  refine ⟨cut?_eq h, ?_⟩
  induction t generalizing before with
  | nil =>
    unfold cut? at h
    split at h
    · cases h
      exact fun _ _ _ => Nat.zero_le _
    · cases h
  | cons c t ih =>
    intro before' after' hparts
    unfold cut? at h
    split at h
    · cases h
      exact Nat.zero_le _
    · next hnot =>
      obtain ⟨⟨b, a⟩, hcut, heq⟩ := Option.map_eq_some_iff.mp h
      cases heq
      cases before' with
      | nil =>
        have hprefix : piece <+: c :: t := ⟨after', hparts.symm⟩
        exact absurd (List.isPrefixOf_iff_prefix.mpr hprefix) hnot
      | cons d before' => exact Nat.succ_le_succ (ih hcut before' after' (List.cons.inj hparts).2)

theorem exists_firstAt (h : piece <:+: t) : ∃ before after, FirstAt piece t before after := by
  obtain ⟨⟨before, after⟩, hcut⟩ := Option.isSome_iff_exists.mp (occurs_iff.mpr h)
  exact ⟨before, after, cut?_first hcut⟩

theorem FirstAt.cut? (h : FirstAt piece t before after) : Text.cut? piece t = some (before, after) := by
  have hin : piece <:+: t := ⟨before, after, h.parts.symm⟩
  obtain ⟨⟨before', after'⟩, hcut⟩ := Option.isSome_iff_exists.mp (occurs_iff.mpr hin)
  obtain ⟨rfl, rfl⟩ := h.unique (cut?_first hcut)
  exact hcut

theorem cutLast?_eq_none_iff : cutLast? mark t = none ↔ mark ∉ t := by
  induction t with
  | nil => simp [cutLast?]
  | cons c t ih =>
    unfold cutLast?
    cases ht : cutLast? mark t with
    | some p =>
      have hin : mark ∈ t := by
        by_contra hnot
        rw [ih.mpr hnot] at ht
        cases ht
      simp [hin]
    | none =>
      have hnot : mark ∉ t := ih.mp ht
      simp [hnot, eq_comm]

/-- No mark is left behind the last one. -/
theorem not_mem_of_cutLast? (h : cutLast? mark t = some (content, rest)) : mark ∉ rest := by
  induction t generalizing content with
  | nil => cases h
  | cons c t ih =>
    unfold cutLast? at h
    split at h
    · next p hp =>
      cases h
      exact ih hp
    · next hnone =>
      split at h
      · cases h
        exact cutLast?_eq_none_iff.mp hnone
      · cases h

theorem cutLast?_of_not_mem (content : Text) (hrest : mark ∉ rest) :
    cutLast? mark (content ++ mark :: rest) = some (content, rest) := by
  induction content with
  | nil => simp [cutLast?, cutLast?_eq_none_iff.mpr hrest]
  | cons c content ih => rw [List.cons_append, cutLast?, ih]

theorem cutLast?_eq_some_iff :
    cutLast? mark t = some (content, rest) ↔ t = content ++ mark :: rest ∧ mark ∉ rest := by
  refine ⟨fun h => ⟨cutLast?_eq h, not_mem_of_cutLast? h⟩, ?_⟩
  rintro ⟨rfl, hrest⟩
  exact cutLast?_of_not_mem content hrest

/-! ### What is cut out -/

theorem between?_eq_none_iff (h : FirstAt opening t before after) :
    between? opening closing t = none ↔ closing ∉ after := by
  rw [between?, h.cut?, Option.bind_some, Option.map_eq_none_iff, cutLast?_eq_none_iff]

theorem between?_eq_some_iff (h : FirstAt opening t before after) :
    between? opening closing t = some content ↔ ∃ rest, after = content ++ closing :: rest ∧ closing ∉ rest := by
  rw [between?, h.cut?, Option.bind_some, Option.map_eq_some_iff]
  constructor
  · rintro ⟨⟨content, rest⟩, hcut, rfl⟩
    exact ⟨rest, cutLast?_eq_some_iff.mp hcut⟩
  · rintro ⟨rest, hrest⟩
    exact ⟨(content, rest), cutLast?_eq_some_iff.mpr hrest, rfl⟩

theorem exists_between? (h : FirstAt opening t before after) (hin : closing ∈ after) :
    ∃ content rest, between? opening closing t = some content ∧ after = content ++ closing :: rest ∧
      closing ∉ rest := by
  cases hcontent : between? opening closing t with
  | none => exact absurd hin ((between?_eq_none_iff h).mp hcontent)
  | some content =>
    obtain ⟨rest, hrest⟩ := (between?_eq_some_iff h).mp hcontent
    exact ⟨content, rest, rfl, hrest⟩

end LineScript.Text
