import LineScript.Proofs.Decimal.Largest
import LineScript.Proofs.Expression.Bare
import LineScript.Proofs.Text.Names
import Mathlib.Data.Nat.Digits.Lemmas

/-! Integers as they are written. What a sign and decimal digits denote decides about their kind: an integer of 64
    bits is one, and any other is read as the float nearest to it. No variable has a say in that. But digits that
    are too many are not read at all, not even as a float, and leading zeros count among them. -/

namespace LineScript

namespace Literal

/-! ### What is denoted -/

/-- What may stand before the digits. -/
def signs : List Text := [[], [.char '+'], [.char '-']]

/-- An integer as it is written. -/
structure Writes (sign digits : Text) : Prop where
  sign : sign ∈ signs
  nonempty : digits ≠ []
  decimal : ∀ c ∈ digits, c.isDigit = true

/-- The magnitude that decimal digits denote by their places. -/
def magnitude (digits : Text) : Nat := Nat.ofDigits 10 (digits.reverse.map fun c => c.toNat - 48)

/-- The integer that a sign and decimal digits denote. -/
def denoted (sign digits : Text) : Int := (if sign = [.char '-'] then -1 else 1) * magnitude digits

variable {sign digits : Text}

theorem natural_eq_magnitude (h : ∀ c ∈ digits, c.isDigit = true) : Decimal.natural digits = magnitude digits := by
  induction digits using List.reverseRecOn with
  | nil => rfl
  | append_singleton digits c ih =>
    obtain ⟨hdigits, hc⟩ := List.forall_mem_append.mp h
    have hpoint := hc c (List.mem_singleton_self c)
    cases c with
    | surrogate k => cases hpoint
    | char d =>
      have hchars : Text.chars (digits ++ [.char d]) = Text.chars digits ++ [d] := by simp [Text.chars]
      have ih := ih hdigits
      rw [Decimal.natural] at ih ⊢
      rw [hchars, Nat.ofDigitChars_append, ih, magnitude, magnitude, List.reverse_concat, List.map_cons,
        Nat.ofDigits_cons, Nat.ofDigitChars_cons, Nat.ofDigitChars_nil]
      exact Nat.add_comm _ _

/-! ### Reading the literal -/

theorem ne_of_isDigit {c d : CodePoint} (hc : c.isDigit = true) (hd : d.isDigit = false) : c ≠ d := by
  rintro rfl
  rw [hc] at hd
  cases hd

theorem splitSign_writes (h : Writes sign digits) :
    Decimal.splitSign (sign ++ digits) = (decide (sign = [.char '-']), digits) := by
  obtain ⟨c, tail, rfl⟩ := List.exists_cons_of_ne_nil h.nonempty
  have hc := h.decimal c List.mem_cons_self
  have hminus := ne_of_isDigit hc (d := .char '-') rfl
  have hplus := ne_of_isDigit hc (d := .char '+') rfl
  have hsign := h.sign
  simp only [signs, List.mem_cons, List.not_mem_nil, or_false] at hsign
  obtain rfl | rfl | rfl := hsign
  · rw [List.nil_append, Decimal.splitSign]
    · rfl
    · exact fun rest hrest => hminus (List.cons.inj hrest).1
    · exact fun rest hrest => hplus (List.cons.inj hrest).1
  · rfl
  · rfl

theorem signed_magnitude (sign digits : Text) :
    Decimal.signed (decide (sign = [.char '-'])) (magnitude digits) = denoted sign digits := by
  by_cases h : sign = [.char '-'] <;> simp [Decimal.signed, denoted, h]

theorem integer?_writes (h : Writes sign digits) : integer? (sign ++ digits) =
    if Decimal.maxDigits < digits.length then .error (.longInteger digits.length)
    else .ok (if inRange (denoted sign digits) then some (denoted sign digits) else none) := by
  have hall : digits.all CodePoint.isDigit = true := List.all_eq_true.mpr h.decimal
  have hdigits : signedDigits? (sign ++ digits) = some (decide (sign = [.char '-']), digits) := by
    simp [signedDigits?, splitSign_writes h, h.nonempty, hall]
  rw [integer?, hdigits]
  dsimp only
  rw [natural_eq_magnitude h.decimal, signed_magnitude]

theorem float?_writes (h : Writes sign digits) : float? (sign ++ digits) =
    some (Decimal.negateIf (decide (sign = [.char '-'])) (Decimal.nearest (magnitude digits) 0)) := by
  have htake : digits.takeWhile CodePoint.isDigit = digits := List.takeWhile_eq_self_iff.mpr h.decimal
  have hdrop : digits.dropWhile CodePoint.isDigit = [] := List.dropWhile_eq_nil_iff.mpr h.decimal
  have hnatural := natural_eq_magnitude h.decimal
  simp [float?, splitSign_writes h, htake, hdrop, h.nonempty, exponent?, Decimal.ofParts, hnatural]

/-! ### The nearest float -/

theorem eq_of_toBits {x y : Float} (h : x.toBits.toBitVec = y.toBits.toBitVec) : x = y := by
  obtain ⟨⟨⟨b⟩, hb⟩⟩ := x
  obtain ⟨⟨⟨c⟩, hc⟩⟩ := y
  obtain rfl : b = c := h
  rfl

theorem ofNat_eq_infinity {m : Nat} (h : Decimal.floatBound ≤ m) : Float.ofNat m = Decimal.infinity :=
  eq_of_toBits (Decimal.toBits_ofNat_infinite h)

/-- A whole number has its float also where its size alone tells that it is too large for one. -/
theorem nearest_eq_ofNat {m : Nat} (hm : 0 < m) : Decimal.nearest m 0 = Float.ofNat m := by
  rw [Decimal.nearest, if_neg (Nat.ne_of_gt hm)]
  split
  · next hsize =>
    have hlarge : ¬m < 10 ^ 310 := by
      intro hsmall
      have hlength := (Nat.length_toDigits_le_iff (by decide) (by decide)).mpr hsmall
      omega
    have hbound : Decimal.floatBound ≤ 10 ^ 310 := by decide +kernel
    exact (ofNat_eq_infinity (hbound.trans (Nat.le_of_not_lt hlarge))).symm
  · rw [if_neg (by omega)]
    rfl

/-- The sign of the float is that of the integer. -/
theorem negateIf_ofNat {negative : Bool} {m : Nat} (hm : 0 < m) :
    Decimal.negateIf negative (Float.ofNat m) = Float.ofInt (Decimal.signed negative m) := by
  obtain ⟨k, rfl⟩ := Nat.exists_eq_succ_of_ne_zero (Nat.ne_of_gt hm)
  cases negative <;> rfl

end Literal

/-! ### Evaluation -/

open Literal

variable {store : Store} {sign digits : Text}

theorem Literal.Writes.point (h : Writes sign digits) {c : CodePoint} (hc : c ∈ sign ++ digits) :
    c = .char '+' ∨ c = .char '-' ∨ c.isDigit = true := by
  obtain hsign | hdigit := List.mem_append.mp hc
  · have hmem := h.sign
    simp only [signs, List.mem_cons, List.not_mem_nil, or_false] at hmem
    obtain rfl | rfl | rfl := hmem
    · cases hsign
    · exact .inl (List.mem_singleton.mp hsign)
    · exact .inr (.inl (List.mem_singleton.mp hsign))
  · exact .inr (.inr (h.decimal c hdigit))

/-- Neither blanks nor quotes nor words are made of a sign and digits. -/
theorem evaluate_writes (h : Writes sign digits) :
    evaluate store (sign ++ digits) = evaluateBare store (sign ++ digits) := by
  have hother : ∀ {d : CodePoint}, d.isDigit = false → d ≠ .char '+' → d ≠ .char '-' → d ∉ sign ++ digits := by
    intro d hdigit hplus hminus hd
    obtain rfl | rfl | hd := h.point hd
    · exact hplus rfl
    · exact hminus rfl
    · exact ne_of_isDigit hd hdigit rfl
  have hword {w : Text} (hw : .char 'e' ∈ w) : sign ++ digits ≠ w := by
    rintro heq
    exact hother (d := .char 'e') rfl (by decide) (by decide) (heq ▸ hw)
  have htrim : Text.trim (sign ++ digits) = sign ++ digits := by
    refine Text.trim_eq_self fun c hc => ?_
    obtain rfl | rfl | hdigit := h.point hc
    · decide
    · decide
    · exact Text.isBlank_of_continuesName (Text.continuesName_of_isDigit hdigit)
  exact evaluate_eq_bare htrim (hother rfl (by decide) (by decide)) (hword (by decide)) (hword (by decide))

/-- Digits that are read decide by the integer that they denote. -/
theorem evaluate_short (h : Writes sign digits) (hshort : digits.length ≤ 4300) : evaluate store (sign ++ digits) =
    if inRange (denoted sign digits) then .ok (.integer (denoted sign digits))
    else .ok (.float (Float.ofInt (denoted sign digits))) := by
  have hread : ¬Decimal.maxDigits < digits.length := Nat.not_lt.mpr hshort
  rw [evaluate_writes h, evaluateBare, integer?_writes h, if_neg hread]
  by_cases hrange : inRange (denoted sign digits) = true
  · rw [if_pos hrange, if_pos hrange]
    rfl
  · -- Zero is in range, so the float has the sign of the integer.
    have hpos : 0 < magnitude digits := by
      rw [Nat.pos_iff_ne_zero]
      intro hzero
      rw [denoted, hzero] at hrange
      exact hrange (by split <;> rfl)
    rw [if_neg hrange, if_neg hrange]
    simp only [bind, Except.bind, float?_writes h, nearest_eq_ofNat hpos, negateIf_ofNat hpos, signed_magnitude]
    rfl

/-- Digits that are too many end the evaluation. -/
theorem evaluate_long (h : Writes sign digits) (hlong : 4300 < digits.length) :
    evaluate store (sign ++ digits) = .error (.longInteger digits.length) := by
  have hunread : Decimal.maxDigits < digits.length := hlong
  rw [evaluate_writes h, evaluateBare, integer?_writes h, if_pos hunread]
  rfl

/-- An integer literal is classified by the integer that it denotes, whatever the variables are: it is that integer
    if it is one of 64 bits, and the float nearest to it if it is not. Only a literal of more digits than are read
    at all has no value. -/
theorem evaluate_integer_literal (h : Writes sign digits) :
    (digits.length ≤ 4300 → -(2 ^ 63) ≤ denoted sign digits ∧ denoted sign digits ≤ 2 ^ 63 - 1 →
      evaluate store (sign ++ digits) = .ok (.integer (denoted sign digits))) ∧
    (digits.length ≤ 4300 → ¬(-(2 ^ 63) ≤ denoted sign digits ∧ denoted sign digits ≤ 2 ^ 63 - 1) →
      evaluate store (sign ++ digits) = .ok (.float (Float.ofInt (denoted sign digits)))) ∧
    (4300 < digits.length → evaluate store (sign ++ digits) = .error (.longInteger digits.length)) := by
  refine ⟨fun hshort hrange => ?_, fun hshort hrange => ?_, evaluate_long h⟩
  · rw [evaluate_short h hshort, if_pos (inRange_iff.mpr hrange)]
  · rw [evaluate_short h hshort, if_neg (mt inRange_iff.mp hrange)]

/-- The least integer, with a zero before it, is one; the one below it is a float, even where a variable is named
    like it. -/
theorem evaluate_integer_literal_least :
    (Writes "-".toText "09223372036854775808".toText ∧
      evaluate .empty "-09223372036854775808".toText = .ok (.integer (-(2 ^ 63)))) ∧
    Writes "-".toText "9223372036854775809".toText ∧
      evaluate ⟨[("-9223372036854775809".toText, .boolean true)]⟩ "-9223372036854775809".toText =
        .ok (.float (Float.ofInt (-(2 ^ 63) - 1))) := by
  have hleast : Writes "-".toText "09223372036854775808".toText := ⟨by decide, by decide, by decide⟩
  have hbelow : Writes "-".toText "9223372036854775809".toText := ⟨by decide, by decide, by decide⟩
  have hdenoted : denoted "-".toText "9223372036854775809".toText = -(2 ^ 63) - 1 := by decide +kernel
  refine ⟨⟨hleast, ?_⟩, hbelow, ?_⟩
  · exact (evaluate_integer_literal hleast).1 (by decide) (by decide +kernel)
  · rw [← hdenoted]
    exact (evaluate_integer_literal hbelow).2.1 (by decide) (by decide +kernel)

/-- A seven behind so many zeros that it has more digits than are read. -/
def distantSeven : Text := List.replicate 4300 (.char '0') ++ [.char '7']

/-- It denotes an integer of 64 bits, and it has no value. -/
theorem distantSeven_unread : Writes [] distantSeven ∧ denoted [] distantSeven = 7 ∧
    evaluate .empty distantSeven = .error (.longInteger 4301) := by
  have hlength : distantSeven.length = 4301 := by
    rw [distantSeven, List.length_append, List.length_replicate]
    rfl
  have hwrites : Writes [] distantSeven := by
    refine ⟨by decide, List.concat_ne_nil _ _, fun c hc => ?_⟩
    obtain hzero | hseven := List.mem_append.mp hc
    · rw [List.eq_of_mem_replicate hzero]
      rfl
    · rw [List.mem_singleton.mp hseven]
      rfl
  have hdenoted : denoted [] distantSeven = 7 := by decide +kernel
  have hvalue : evaluate .empty distantSeven = .error (.longInteger distantSeven.length) :=
    evaluate_long hwrites (by omega)
  rw [hlength] at hvalue
  exact ⟨hwrites, hdenoted, hvalue⟩

end LineScript
