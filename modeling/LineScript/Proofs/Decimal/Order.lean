/-! The order of floats. It is no total order: what is no number is neither above nor below any float. Of two
    numbers, though, one is at most the other. -/

namespace LineScript.Decimal

open Float.Model (UnpackedFloat)

variable {x y : Float}

/-! ### Comparing -/

/-- Of two floats of one sign the exponents decide, and then the mantissas. -/
theorem magnitudes_swap (e f : Int) (m n : Nat) :
    ((compare e f).then (compare m n)).swap = (compare f e).then (compare n m) := by
  rw [Ordering.swap_then, Int.compare_swap, Nat.compare_swap]

/-- From the other side two floats compare the other way round. -/
theorem compare_swap (a b : UnpackedFloat) : b.compare a = (a.compare b).map Ordering.swap := by
  cases a with
  | notANumber => cases b <;> rfl
  | infinity s =>
    cases b with
    | infinity t => cases s <;> cases t <;> rfl
    | _ => cases s <;> rfl
  | zero s =>
    cases b with
    | notANumber => rfl
    | infinity t => cases t <;> rfl
    | zero t => rfl
    | finite t n f hn => cases t <;> rfl
  | finite s m e hm =>
    cases b with
    | notANumber => rfl
    | infinity t => cases t <;> rfl
    | zero t => cases s <;> rfl
    | finite t n f hn =>
      have hswap := magnitudes_swap e f m n
      cases s with
      | positive =>
        cases t with
        | positive => exact congrArg some hswap.symm
        | negative => rfl
      | negative =>
        cases t with
        | positive => rfl
        | negative => exact congrArg (fun o => some o.swap) hswap.symm

/-- Numbers compare. -/
theorem compare_isSome {a b : UnpackedFloat} (ha : a.isNaN = false) (hb : b.isNaN = false) :
    (a.compare b).isSome = true := by
  cases a with
  | notANumber => cases ha
  | infinity s =>
    cases b with
    | notANumber => cases hb
    | infinity t => rfl
    | _ => cases s <;> rfl
  | zero s =>
    cases b with
    | notANumber => cases hb
    | infinity t => cases t <;> rfl
    | zero t => rfl
    | finite t n f hn => cases t <;> rfl
  | finite s m e hm =>
    cases b with
    | notANumber => cases hb
    | infinity t => cases t <;> rfl
    | zero t => cases s <;> rfl
    | finite t n f hn => cases s <;> cases t <;> rfl

/-! ### Order -/

theorem lt_iff : x < y ↔ x.toModel.unpack.compare y.toModel.unpack = some .lt := by
  change decide (x.toModel < y.toModel) = true ↔ _
  rw [decide_eq_true_iff]
  change (x.toModel.unpack.compare y.toModel.unpack == some .lt) = true ↔ _
  rw [beq_iff_eq]

theorem le_iff : x ≤ y ↔ (x.toModel.unpack.compare y.toModel.unpack).any Ordering.isLE = true := by
  change decide (x.toModel ≤ y.toModel) = true ↔ _
  rw [decide_eq_true_iff]
  rfl

/-- Of two numbers, the one that is not above the other is at most the other. -/
theorem le_of_not_lt (hx : x.isNaN = false) (hy : y.isNaN = false) (h : ¬y < x) : x ≤ y := by
  rw [lt_iff, compare_swap x.toModel.unpack] at h
  rw [le_iff]
  obtain ⟨o, ho⟩ := Option.isSome_iff_exists.mp (compare_isSome hx hy)
  rw [ho] at h ⊢
  cases o with
  | lt => rfl
  | eq => rfl
  | gt => exact absurd rfl h

theorem compare_of_isNaN {a : UnpackedFloat} (h : a.isNaN = true) (b : UnpackedFloat) : a.compare b = none := by
  cases a with
  | notANumber => rfl
  | infinity s => cases h
  | zero s => cases h
  | finite s m e hm => cases h

/-- What is no number is at most no float. -/
theorem not_le_of_isNaN (h : x.isNaN = true) : ¬x ≤ y := by
  rw [le_iff, compare_of_isNaN h]
  exact Bool.false_ne_true

/-- No float is below what is no number. -/
theorem not_lt_of_isNaN (h : x.isNaN = true) : ¬y < x := by
  rw [lt_iff, compare_swap x.toModel.unpack, compare_of_isNaN h]
  exact fun h => nomatch h

end LineScript.Decimal
