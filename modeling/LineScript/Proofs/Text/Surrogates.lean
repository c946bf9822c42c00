import LineScript.Text.Utf8
import Mathlib.Data.List.TakeWhile

/-! Surrogates that stand next to each other. Written in units of sixteen bits, a leading surrogate and a
    trailing one after it look like the one character they stand for, so a text that holds such a pair is
    not read back as it was. A text of characters is. -/

namespace LineScript

namespace CodePoint

theorem toNat_char_lt (c : Char) : c.toNat < 0xD800 ∨ (0xE000 ≤ c.toNat ∧ c.toNat < 0x110000) := by
  have h : c.toNat < 0xD800 ∨ (0xDFFF < c.toNat ∧ c.toNat < 0x110000) := c.valid
  omega

theorem toNat_lt (c : CodePoint) : c.toNat < 0x110000 := by
  cases c with
  | char c =>
    have h := toNat_char_lt c
    show c.toNat < 0x110000
    omega
  | surrogate k =>
    have h := k.isLt
    show 0xD800 + k.val < 0x110000
    omega

theorem ofNat_toNat (c : CodePoint) : ofNat c.toNat = c := by
  cases c with
  | char c =>
    have h := toNat_char_lt c
    have hc : ¬(0xD800 ≤ c.toNat ∧ c.toNat < 0xE000) := by omega
    show ofNat c.toNat = _
    rw [ofNat, dif_neg hc, Char.ofNat_toNat]
  | surrogate k =>
    have h := k.isLt
    have hk : 0xD800 ≤ 0xD800 + k.val ∧ 0xD800 + k.val < 0xE000 := by omega
    show ofNat (0xD800 + k.val) = _
    rw [ofNat, dif_pos hk]
    exact congrArg surrogate (Fin.ext (Nat.add_sub_cancel_left _ _))

/-- Whether it is a surrogate that a pair begins with. -/
def opensPair (c : CodePoint) : Bool := decide (0xD800 ≤ c.toNat) && decide (c.toNat ≤ 0xDBFF)

/-- Whether it is a surrogate that a pair ends with. -/
def closesPair (c : CodePoint) : Bool := decide (0xDC00 ≤ c.toNat) && decide (c.toNat ≤ 0xDFFF)

theorem opensPair_of_not_surrogate {c : CodePoint} (h : c.isSurrogate = false) : c.opensPair = false := by
  cases c with
  | char c =>
    have h := toNat_char_lt c
    show (decide (0xD800 ≤ c.toNat) && decide (c.toNat ≤ 0xDBFF)) = false
    rw [Bool.and_eq_false_iff, decide_eq_false_iff_not, decide_eq_false_iff_not]
    omega
  | surrogate k => cases h

/-- The character that a pair of surrogates stands for. -/
def ofPair (lead trail : CodePoint) : CodePoint :=
  .ofNat (0x10000 + (lead.toNat - 0xD800) * 0x400 + (trail.toNat - 0xDC00))

end CodePoint

namespace Text

/-- The text in which every pair of surrogates is the one character it stands for. -/
def joinPairs : Text → Text
  | c :: d :: rest =>
    if c.opensPair && d.closesPair then .ofPair c d :: joinPairs rest else c :: joinPairs (d :: rest)
  | t => t

/-- Whether the text holds no surrogate. -/
def isScalar (t : Text) : Bool := t.all fun c => !c.isSurrogate

theorem isScalar_cons {c : CodePoint} {t : Text} :
    isScalar (c :: t) = true ↔ c.isSurrogate = false ∧ isScalar t = true := by
  simp [isScalar]

theorem isScalar_iff {t : Text} : isScalar t = true ↔ ∀ c ∈ t, c.isSurrogate = false := by
  simp [isScalar]

theorem isScalar_ofChars (cs : List Char) : isScalar (ofChars cs) = true := by
  rw [isScalar_iff]
  intro c hc
  obtain ⟨ch, -, rfl⟩ := List.mem_map.mp hc
  rfl

theorem isScalar_toText (s : String) : isScalar s.toText = true := isScalar_ofChars s.toList

/-- Only a surrogate keeps a text from being encoded. -/
theorem unencodable?_of_isScalar {t : Text} (h : isScalar t = true) : unencodable? t = none := by
  have hdrop : (t.dropWhile fun c => !(c.isSurrogate && !false)) = [] := by
    rw [List.dropWhile_eq_nil_iff]
    intro c hc
    rw [isScalar_iff.mp h c hc]
    rfl
  rw [unencodable?, encodeFault?]
  simp only [hdrop]

theorem joinPairs_of_isScalar {t : Text} (h : isScalar t = true) : joinPairs t = t := by
  fun_induction joinPairs t with
  | case1 c d rest hpair ih =>
    rw [CodePoint.opensPair_of_not_surrogate (isScalar_cons.mp h).1] at hpair
    cases hpair
  | case2 c d rest hpair ih => rw [ih (isScalar_cons.mp h).2]
  | case3 t ht => rfl

theorem length_joinPairs_le (t : Text) : (joinPairs t).length ≤ t.length := by
  fun_induction joinPairs t with
  | case1 c d rest hpair ih =>
    simp only [List.length_cons]
    omega
  | case2 c d rest hpair ih =>
    simp only [List.length_cons] at ih ⊢
    omega
  | case3 t ht => exact Nat.le_refl _

theorem joinPairs_ne_nil {t : Text} (h : t ≠ []) : joinPairs t ≠ [] := by
  fun_cases joinPairs t with
  | case1 c d rest hpair => exact List.cons_ne_nil _ _
  | case2 c d rest hpair => exact List.cons_ne_nil _ _
  | case3 t ht => exact h

end Text
end LineScript
