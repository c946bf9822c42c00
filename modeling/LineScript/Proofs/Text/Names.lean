import LineScript.Text.Blank
import LineScript.Text.Identifier

/-! The characters of identifiers: none of them is blank or a surrogate, and the digits of ASCII only continue
    one. -/

namespace LineScript.Text

/-- No range of the one list meets one of the other. -/
def apart (r s : List (Nat × Nat)) : Bool :=
  r.all fun p => s.all fun q => p.2.blt q.1 || q.2.blt p.1

theorem inRanges_apart {r s : List (Nat × Nat)} {c : CodePoint} (h : apart r s = true)
    (hc : inRanges r c = true) : inRanges s c = false := by
  obtain ⟨p, hp, hcp⟩ := List.any_eq_true.mp hc
  rw [inRanges, List.any_eq_false]
  intro q hq hcq
  have hpq := List.all_eq_true.mp (List.all_eq_true.mp h p hp) q hq
  simp only [Bool.and_eq_true, Bool.or_eq_true, decide_eq_true_eq, Nat.blt_eq] at hcp hcq hpq
  omega

theorem continuesName_apart {s : List (Nat × Nat)} {c : CodePoint}
    (h : apart (nameStartRanges ++ nameTailRanges) s = true) (hc : continuesName c = true) :
    inRanges s c = false := by
  refine inRanges_apart h ?_
  rw [inRanges, List.any_append]
  exact hc

theorem isBlank_of_continuesName {c : CodePoint} (hc : continuesName c = true) : isBlank c = false :=
  continuesName_apart (by decide +kernel) hc

theorem not_between {a b : Nat} {c : CodePoint} (h : inRanges [(a, b)] c = false) : c.toNat < a ∨ b < c.toNat := by
  simp only [inRanges, List.any_cons, List.any_nil, Bool.or_false, Bool.and_eq_false_iff,
    decide_eq_false_iff_not] at h
  omega

theorem isSurrogate_of_continuesName {c : CodePoint} (hc : continuesName c = true) : c.isSurrogate = false := by
  have hnot := not_between (continuesName_apart (s := [(0xD800, 0xDFFF)]) (by decide +kernel) hc)
  cases c with
  | char c => rfl
  | surrogate k =>
    have hk : (CodePoint.surrogate k).toNat = 0xD800 + k.val := rfl
    omega

theorem continuesName_of_isDigit {c : CodePoint} (hc : c.isDigit = true) : continuesName c = true := by
  cases c with
  | surrogate k => cases hc
  | char c =>
    obtain ⟨hlow, hhigh⟩ := Char.isDigit_iff_toNat.mp hc
    have hin : (decide (48 ≤ c.toNat) && decide (c.toNat ≤ 57)) = true :=
      Bool.and_eq_true_iff.mpr ⟨decide_eq_true hlow, decide_eq_true hhigh⟩
    exact Bool.or_eq_true_iff.mpr (Or.inr (List.any_eq_true.mpr ⟨(48, 57), List.mem_cons_self, hin⟩))

theorem isDigit_of_startsName {c : CodePoint} (hc : startsName c = true) : c.isDigit = false := by
  have hnot := not_between (inRanges_apart (s := [('0'.toNat, '9'.toNat)]) (by decide +kernel) hc)
  cases c with
  | surrogate k => rfl
  | char c =>
    rw [Bool.eq_false_iff]
    intro hdigit
    obtain ⟨hlow, hhigh⟩ := Char.isDigit_iff_toNat.mp hdigit
    have hc : (CodePoint.char c).toNat = c.toNat := rfl
    omega

end LineScript.Text
