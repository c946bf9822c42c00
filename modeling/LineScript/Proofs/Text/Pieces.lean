import LineScript.Text.Blank
import LineScript.Text.Search
import Mathlib.Data.List.DropRight

/-! Pieces of a text. What is cut out of a text stands in it in the same order, and what a cut leaves out
    is only the piece it cuts at. -/

namespace LineScript.Text

theorem trimStart_sublist (t : Text) : (trimStart t).Sublist t := List.dropWhile_sublist _

theorem trimEnd_sublist (t : Text) : (trimEnd t).Sublist t := by
  have h := (List.dropWhile_sublist isBlank (l := t.reverse)).reverse
  rwa [List.reverse_reverse] at h

theorem trim_sublist (t : Text) : (trim t).Sublist t := (trimEnd_sublist _).trans (trimStart_sublist t)

theorem cut?_eq {piece t before after : Text} (h : cut? piece t = some (before, after)) :
    t = before ++ piece ++ after := by
  induction t generalizing before with
  | nil =>
    unfold cut? at h
    split at h
    · next hp =>
      obtain rfl := List.isEmpty_iff.mp hp
      cases h
      rfl
    · cases h
  | cons c rest ih =>
    unfold cut? at h
    split at h
    · next hp =>
      obtain ⟨more, hmore⟩ := List.isPrefixOf_iff_prefix.mp hp
      cases h
      rw [← hmore, List.drop_left, List.nil_append]
    · obtain ⟨⟨b, a⟩, hcut, heq⟩ := Option.map_eq_some_iff.mp h
      cases heq
      rw [ih hcut]
      rfl

theorem cutLast?_eq {mark : CodePoint} {t before after : Text} (h : cutLast? mark t = some (before, after)) :
    t = before ++ mark :: after := by
  induction t generalizing before with
  | nil => cases h
  | cons c rest ih =>
    unfold cutLast? at h
    split at h
    · next p hp =>
      cases h
      rw [ih hp]
      rfl
    · split at h
      · next hc =>
        cases h
        rw [hc]
        rfl
      · cases h

theorem cut?_append (piece after : Text) : cut? piece (piece ++ after) = some ([], after) := by
  have hpre : piece.isPrefixOf (piece ++ after) = true := List.isPrefixOf_iff_prefix.mpr (List.prefix_append _ _)
  have hdrop : (piece ++ after).drop piece.length = after := List.drop_left
  cases ht : piece ++ after with
  | nil =>
    obtain ⟨rfl, rfl⟩ := List.append_eq_nil_iff.mp ht
    rfl
  | cons c rest =>
    rw [ht] at hpre hdrop
    rw [cut?, if_pos hpre, hdrop]

theorem cutLast?_concat (mark : CodePoint) (before : Text) : cutLast? mark (before ++ [mark]) = some (before, []) := by
  induction before with
  | nil => simp [cutLast?]
  | cons c before ih => rw [List.cons_append, cutLast?, ih]

/-- An opening at the beginning is the first, and a closing at the end is the last. -/
theorem between?_of_ends (opening t : Text) (closing : CodePoint) :
    between? opening closing (opening ++ t ++ [closing]) = some t := by
  rw [between?, List.append_assoc, cut?_append, Option.bind_some, cutLast?_concat]
  rfl

/-- The text between two marks stands in the text with both marks around it. -/
theorem between?_eq {opening t u : Text} {closing : CodePoint} (h : between? opening closing t = some u) :
    ∃ before after, t = before ++ opening ++ (u ++ closing :: after) := by
  obtain ⟨⟨before, rest⟩, hcut, hlast⟩ := Option.bind_eq_some_iff.mp h
  obtain ⟨⟨inside, after⟩, hinside, rfl⟩ := Option.map_eq_some_iff.mp hlast
  exact ⟨before, after, by rw [← cutLast?_eq hinside, ← cut?_eq hcut]⟩

theorem between?_sublist {opening t u : Text} {closing : CodePoint} (h : between? opening closing t = some u) :
    u.Sublist t := by
  obtain ⟨before, after, rfl⟩ := between?_eq h
  exact (List.sublist_append_left u _).trans (List.sublist_append_right _ _)

theorem splitOn_sublist {mark : CodePoint} {t piece : Text} (h : piece ∈ t.splitOn mark) : piece.Sublist t := by
  induction t generalizing piece with
  | nil =>
    obtain rfl := List.mem_singleton.mp h
    exact List.nil_sublist _
  | cons c rest ih =>
    rw [List.splitOn_cons_eq_if_modifyHead] at h
    split at h
    · rcases List.mem_cons.mp h with rfl | h
      · exact List.nil_sublist _
      · exact (ih h).cons c
    · obtain ⟨first, more, hsplit⟩ := List.exists_cons_of_ne_nil (List.splitOn_ne_nil mark rest)
      rw [hsplit, List.modifyHead_cons] at h
      rw [hsplit] at ih
      rcases List.mem_cons.mp h with rfl | h
      · exact (ih List.mem_cons_self).cons_cons c
      · exact (ih (List.mem_cons_of_mem _ h)).cons c

/-- A piece of a split holds no mark. -/
theorem not_mem_of_mem_splitOn {mark : CodePoint} {t piece : Text} (h : piece ∈ t.splitOn mark) : mark ∉ piece := by
  induction t generalizing piece with
  | nil =>
    obtain rfl := List.mem_singleton.mp h
    exact List.not_mem_nil
  | cons c rest ih =>
    rw [List.splitOn_cons_eq_if_modifyHead] at h
    split at h
    · rcases List.mem_cons.mp h with rfl | h
      · exact List.not_mem_nil
      · exact ih h
    · next hc =>
      obtain ⟨first, more, hsplit⟩ := List.exists_cons_of_ne_nil (List.splitOn_ne_nil mark rest)
      rw [hsplit, List.modifyHead_cons] at h
      rw [hsplit] at ih
      rcases List.mem_cons.mp h with rfl | h
      · intro hmark
        rcases List.mem_cons.mp hmark with rfl | hmark
        · exact hc (beq_self_eq_true mark)
        · exact ih List.mem_cons_self hmark
      · exact ih (List.mem_cons_of_mem _ h)

/-- A text that a mark splits in two has it once, between the two. -/
theorem eq_of_splitOn {mark : CodePoint} {t left right : Text} (h : t.splitOn mark = [left, right]) :
    t = left ++ mark :: right ∧ mark ∉ left ∧ mark ∉ right := by
  have hpiece : ∀ piece ∈ [left, right], mark ∉ piece := fun piece hp => not_mem_of_mem_splitOn (h ▸ hp)
  refine ⟨?_, hpiece left List.mem_cons_self, hpiece right (List.mem_cons_of_mem _ List.mem_cons_self)⟩
  have hjoin : [mark].intercalate (t.splitOn mark) = t := List.intercalate_splitOn mark
  rw [h] at hjoin
  exact hjoin.symm.trans (by simp [List.intercalate])

theorem splitOn_two {mark : CodePoint} {left right : Text} (hleft : mark ∉ left) (hright : mark ∉ right) :
    (left ++ mark :: right).splitOn mark = [left, right] := by
  have hsplit : ([mark].intercalate [left, right]).splitOn mark = [left, right] :=
    List.splitOn_intercalate mark (by simp [hleft, hright]) (by simp)
  rw [← hsplit]
  simp [List.intercalate]

/-! ### What occurs -/

/-- A piece occurs in a text when the text has it in one stretch. -/
theorem occurs_iff {piece t : Text} : occurs piece t = true ↔ piece <:+: t := by
  constructor
  · intro h
    obtain ⟨⟨before, after⟩, hcut⟩ := Option.isSome_iff_exists.mp h
    exact ⟨before, after, (cut?_eq hcut).symm⟩
  · intro h
    induction t with
    | nil =>
      obtain rfl := List.infix_nil.mp h
      rfl
    | cons c rest ih =>
      unfold occurs cut?
      split
      · rfl
      · next hp =>
        rcases List.infix_cons_iff.mp h with hpre | hin
        · exact absurd (List.isPrefixOf_iff_prefix.mpr hpre) hp
        · rw [Option.isSome_map]
          exact ih hin

/-- A piece without the code point that parts two texts occurs in one of them if it occurs at all. -/
theorem isInfix_parted {piece a b : Text} {c : CodePoint} (hc : c ∉ piece) (h : piece <:+: a ++ c :: b) :
    piece <:+: a ∨ piece <:+: b := by
  rcases List.infix_append_iff.mp h with ha | hb | ⟨before, after, rfl, hbefore, hafter⟩
  · exact .inl ha
  · rcases List.infix_cons_iff.mp hb with hpre | hb
    · rcases List.prefix_cons_iff.mp hpre with rfl | ⟨rest, rfl, -⟩
      · exact .inl (List.nil_infix)
      · exact absurd List.mem_cons_self hc
    · exact .inr hb
  · rcases List.prefix_cons_iff.mp hafter with rfl | ⟨rest, rfl, -⟩
    · rw [List.append_nil]
      exact .inl hbefore.isInfix
    · exact absurd (List.mem_append_right _ List.mem_cons_self) hc

/-! ### Trimmed texts -/

theorem isPrefix_trimEnd (t : Text) : trimEnd t <+: t := List.rdropWhile_prefix isBlank t

theorem isInfix_trim (t : Text) : trim t <:+: t :=
  (isPrefix_trimEnd _).isInfix.trans (List.dropWhile_suffix isBlank).isInfix

/-- Neither end of a trimmed text is blank. -/
theorem isBlank_head_trim {t : Text} {c : CodePoint} (h : (trim t).head? = some c) : isBlank c = false := by
  have hstart : (trimStart t).head? = some c := by
    obtain ⟨more, hmore⟩ := isPrefix_trimEnd (trimStart t)
    rw [← hmore, List.head?_append]
    exact Option.or_eq_some_iff.mpr (Or.inl h)
  have hnot := List.head?_dropWhile_not isBlank t
  rw [show (t.dropWhile isBlank).head? = some c from hstart] at hnot
  exact hnot

theorem isBlank_getLast_trim {t : Text} {c : CodePoint} (h : (trim t).getLast? = some c) : isBlank c = false := by
  have hnot := List.head?_dropWhile_not isBlank (trimStart t).reverse
  rw [trim, trimEnd, List.getLast?_reverse] at h
  rw [h] at hnot
  exact hnot

theorem trimStart_append {a t : Text} (ha : ∀ c ∈ a, isBlank c = true) (ht : ∀ c, t.head? = some c → isBlank c = false) :
    trimStart (a ++ t) = t := by
  rw [trimStart, List.dropWhile_append_of_pos ha]
  cases t with
  | nil => rfl
  | cons c rest => exact List.dropWhile_cons_of_neg (by simp [ht c rfl])

theorem trimEnd_append {b t : Text} (hb : ∀ c ∈ b, isBlank c = true)
    (ht : ∀ c, t.getLast? = some c → isBlank c = false) : trimEnd (t ++ b) = t := by
  have hrev := trimStart_append (a := b.reverse) (t := t.reverse) (fun c hc => hb c (List.mem_reverse.mp hc))
    (by simpa using ht)
  rw [trimStart, ← List.reverse_append] at hrev
  rw [trimEnd, hrev, List.reverse_reverse]

/-- Blanks around a text that neither begins nor ends with one are trimmed off. -/
theorem trim_append {a b t : Text} (ha : ∀ c ∈ a, isBlank c = true) (hb : ∀ c ∈ b, isBlank c = true) (ht : t ≠ [])
    (hhead : ∀ c, t.head? = some c → isBlank c = false) (hlast : ∀ c, t.getLast? = some c → isBlank c = false) :
    trim (a ++ t ++ b) = t := by
  have hstart : ∀ c, (t ++ b).head? = some c → isBlank c = false := by
    rwa [List.head?_append_of_ne_nil t ht]
  rw [trim, List.append_assoc, trimStart_append ha hstart, trimEnd_append hb hlast]

theorem trim_cons_blank {c : CodePoint} (hc : isBlank c = true) (t : Text) : trim (c :: t) = trim t := by
  rw [trim, trimStart, List.dropWhile_cons_of_pos hc]
  rfl

/-- A text that neither begins nor ends with a blank is trimmed. -/
theorem trim_of_ends {t : Text} (hhead : ∀ c, t.head? = some c → isBlank c = false)
    (hlast : ∀ c, t.getLast? = some c → isBlank c = false) : trim t = t := by
  have none : ∀ c ∈ ([] : Text), isBlank c = true := fun _ hc => absurd hc List.not_mem_nil
  have hstart : trimStart t = t := trimStart_append none hhead
  have hend : trimEnd (t ++ []) = t := trimEnd_append none hlast
  rw [List.append_nil] at hend
  rw [trim, hstart, hend]

theorem trim_eq_self {t : Text} (h : ∀ c ∈ t, isBlank c = false) : trim t = t :=
  trim_of_ends (fun c hc => h c (List.mem_of_mem_head? hc)) (fun c hc => h c (List.mem_of_getLast? hc))

@[simp] theorem trim_trim (t : Text) : trim (trim t) = trim t :=
  trim_of_ends (fun _ => isBlank_head_trim) (fun _ => isBlank_getLast_trim)

theorem trim_append_blank {t : Text} {c : CodePoint} (hc : isBlank c = true) (htrim : trim t = t) (ht : t ≠ []) :
    trim (t ++ [c]) = t := by
  refine trim_append (a := []) (fun _ h => absurd h List.not_mem_nil) (fun d hd => ?_) ht
    (fun _ h => isBlank_head_trim (htrim ▸ h)) (fun _ h => isBlank_getLast_trim (htrim ▸ h))
  rwa [List.mem_singleton.mp hd]

theorem trim_eq_nil_iff {t : Text} : trim t = [] ↔ ∀ c ∈ t, isBlank c = true := by
  constructor
  · intro h
    have hblank : ∀ c ∈ trimStart t, isBlank c = true := by
      rw [trim, trimEnd, List.reverse_eq_nil_iff, List.dropWhile_eq_nil_iff] at h
      exact fun c hc => h c (List.mem_reverse.mpr hc)
    -- the first that is not blank, if there is one, is left at the beginning
    have hstart : trimStart t = [] := by
      cases hs : trimStart t with
      | nil => rfl
      | cons c rest =>
        have hnot := List.head?_dropWhile_not isBlank t
        rw [show t.dropWhile isBlank = c :: rest from hs] at hnot
        have hc := hblank c (hs ▸ List.mem_cons_self)
        simp [hc] at hnot
    exact List.dropWhile_eq_nil_iff.mp hstart
  · intro h
    rw [trim, trimStart, List.dropWhile_eq_nil_iff.mpr h]
    rfl

/-! ### Endings -/

theorem dropEnding?_eq_some_iff {ending t stem : Text} : dropEnding? ending t = some stem ↔ t = stem ++ ending := by
  unfold dropEnding?
  constructor
  · intro h
    split at h
    · next hs =>
      obtain ⟨before, rfl⟩ := List.isSuffixOf_iff_suffix.mp hs
      have hlength : (before ++ ending).length - ending.length = before.length := by simp
      rw [hlength, List.take_left] at h
      rw [Option.some.inj h]
    · cases h
  · rintro rfl
    rw [if_pos (List.isSuffixOf_iff_suffix.mpr (List.suffix_append stem ending))]
    simp

theorem dropEnding?_eq_none_iff {ending t : Text} : dropEnding? ending t = none ↔ ¬ending <:+ t := by
  rw [dropEnding?, ← List.isSuffixOf_iff_suffix]
  split <;> simp_all

end LineScript.Text
