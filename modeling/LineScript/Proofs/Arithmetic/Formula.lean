import LineScript.Arithmetic.Evaluate
import Mathlib.Data.Rat.Floor

/-! Formulas over the integers, and what they are worth: integers without bound, and quotients cut toward
    zero at each division. The tree of a formula evaluates to just that. -/

namespace LineScript.Arithmetic

/-- An operation on two integers. -/
inductive Operation where
  | plus
  | minus
  | times
  | dividedBy
deriving DecidableEq, Repr

/-- An expression as its operations group it. The names in it stand for integers. -/
inductive Formula where
  | literal (n : Nat)
  | name (x : Text)
  | signed (negative : Bool) (operand : Formula)
  | joined (op : Operation) (left right : Formula)
deriving DecidableEq, Repr

/-! ### Exact values -/

/-- The whole part of a fraction, on the side of zero. -/
def towardZero (q : ℚ) : Int := if 0 ≤ q then ⌊q⌋ else ⌈q⌉

/-- The exact result of an operation; nothing is divided by zero. -/
def Operation.exact : Operation → Int → Int → Option Int
  | .plus, a, b => some (a + b)
  | .minus, a, b => some (a - b)
  | .times, a, b => some (a * b)
  | .dividedBy, a, b => if b = 0 then none else some (towardZero (a / b))

/-- The exact value of a formula in which the names stand for the integers of `ρ`. -/
def Formula.value (ρ : Text → Int) : Formula → Option Int
  | .literal n => some n
  | .name x => some (ρ x)
  | .signed negative e => (e.value ρ).map fun n => if negative then -n else n
  | .joined op l r => (l.value ρ).bind fun a => (r.value ρ).bind fun b => op.exact a b

theorem floor_div {a b : Int} (ha : 0 ≤ a) (hb : 0 < b) : ⌊(a : ℚ) / b⌋ = a.tdiv b := by
  obtain ⟨n, rfl⟩ := Int.eq_ofNat_of_zero_le (Int.le_of_lt hb)
  rw [Int.tdiv_eq_ediv_of_nonneg ha, Int.cast_natCast]
  exact Rat.floor_intCast_div_natCast a n

theorem towardZero_neg (q : ℚ) : towardZero (-q) = -towardZero q := by
  rcases lt_trichotomy q 0 with h | rfl | h
  · rw [towardZero, towardZero, if_pos (neg_nonneg.mpr h.le), if_neg (not_le.mpr h), Int.floor_neg]
  · rfl
  · rw [towardZero, towardZero, if_neg (not_le.mpr (neg_neg_of_pos h)), if_pos h.le, Int.ceil_neg]

/-- Cutting the quotient of magnitudes and giving it the sign of the fraction is cutting toward zero. -/
theorem towardZero_div {a b : Int} (hb : b ≠ 0) : towardZero ((a : ℚ) / b) = a.tdiv b := by
  have pos {a b : Int} (ha : 0 ≤ a) (hb : 0 < b) : towardZero ((a : ℚ) / b) = a.tdiv b := by
    have hq : 0 ≤ (a : ℚ) / b := div_nonneg (Int.cast_nonneg ha) (Int.cast_nonneg hb.le)
    rw [towardZero, if_pos hq, floor_div ha hb]
  have denominator {a b : Int} (hb : 0 < b) : towardZero ((a : ℚ) / b) = a.tdiv b := by
    rcases Int.le_total 0 a with ha | ha
    · exact pos ha hb
    · have h := pos (Int.neg_nonneg_of_nonpos ha) hb
      rwa [Int.cast_neg, neg_div, towardZero_neg, Int.neg_tdiv, neg_inj] at h
  rcases Int.lt_or_gt_of_ne hb with hneg | hpos
  · have h := denominator (a := a) (Int.neg_pos_of_neg hneg)
    rwa [Int.cast_neg, div_neg, towardZero_neg, Int.tdiv_neg, neg_inj] at h
  · exact denominator hpos

/-! ### Trees -/

/-- The operator of the tree that the operation is read as. -/
def Operation.operator : Operation → Operator
  | .plus => .add
  | .minus => .subtract
  | .times => .multiply
  | .dividedBy => .divide

/-- The tree that a formula is read as. -/
def Formula.tree : Formula → Tree
  | .literal n => .number (.integer n)
  | .name x => .name x
  | .signed negative e => .unary (if negative then .minus else .plus) e.tree
  | .joined op l r => .binary op.operator l.tree r.tree

/-- How many operators nest in a formula. -/
def Formula.levels : Formula → Nat
  | .literal _ => 0
  | .name _ => 0
  | .signed _ e => e.levels + 1
  | .joined _ l r => max l.levels r.levels + 1

/-- The numbers that are written in a formula. -/
def Formula.literals : Formula → List Nat
  | .literal n => [n]
  | .name _ => []
  | .signed _ e => e.literals
  | .joined _ l r => l.literals ++ r.literals

/-- The names that are written in a formula. -/
def Formula.names : Formula → List Text
  | .literal _ => []
  | .name x => [x]
  | .signed _ e => e.names
  | .joined _ l r => l.names ++ r.names

theorem Formula.height_tree (f : Formula) : f.tree.height = f.levels + 1 := by
  induction f with
  | literal n | name x => rfl
  | signed negative e ih => rw [tree, Tree.height, ih, levels]
  | joined op l r ihl ihr => rw [tree, Tree.height, ihl, ihr, levels, Nat.add_max_add_right]

/-! ### Evaluation -/

/-- The answer of an evaluation that meets no fault but a division by zero. -/
def answer : Option Int → Except Fault Number
  | some n => .ok (.integer n)
  | none => .error .failed

/-- The names of a formula are in normal form and bound to the integers of `ρ`. -/
def Formula.Bound (store : Store) (ρ : Text → Int) (f : Formula) : Prop :=
  ∀ x ∈ f.names, Text.normalForm x = x ∧ store.get? x = some (.integer (ρ x))

variable {store : Store} {ρ : Text → Int}

theorem lookup_bound {x : Text} (h : Text.normalForm x = x ∧ store.get? x = some (.integer (ρ x))) :
    lookup store x = .ok (.integer (ρ x)) := by
  rw [lookup, h.1, h.2]

theorem apply_sign (negative : Bool) (n : Int) : Sign.apply (if negative then .minus else .plus) (.integer n) =
    .ok (.integer (if negative then -n else n)) := by
  cases negative <;> rfl

theorem apply_operator (op : Operation) (a b : Int) :
    op.operator.apply (.integer a) (.integer b) = answer (op.exact a b) := by
  cases op with
  | plus | minus | times => rfl
  | dividedBy =>
    rw [Operation.operator, Operator.apply, Operation.exact, Number.isZero]
    by_cases hb : b = 0
    · rw [if_pos hb, if_pos (decide_eq_true hb)]
      rfl
    · rw [if_neg hb, if_neg (by simpa using hb), towardZero_div hb]
      rfl

/-- The tree of a formula has the exact value of the formula, and none where something is divided by
    zero. -/
theorem evalTree_tree {f : Formula} {depth : Nat} (hf : f.Bound store ρ) (hdepth : f.levels ≤ depth) :
    evalTree store depth f.tree = answer (f.value ρ) := by
  induction f generalizing depth with
  | literal n => unfold evalTree; rfl
  | name x =>
    rw [Formula.tree, evalTree]
    exact lookup_bound (hf x List.mem_cons_self)
  | signed negative e ih =>
    obtain ⟨d, rfl⟩ := Nat.exists_eq_succ_of_ne_zero (Nat.ne_of_gt (Nat.lt_of_lt_of_le (Nat.succ_pos _) hdepth))
    rw [Formula.tree, evalTree, ih hf (Nat.le_of_succ_le_succ hdepth), Formula.value]
    cases e.value ρ with
    | none => rfl
    | some n => exact apply_sign negative n
  | joined op l r ihl ihr =>
    obtain ⟨d, rfl⟩ := Nat.exists_eq_succ_of_ne_zero (Nat.ne_of_gt (Nat.lt_of_lt_of_le (Nat.succ_pos _) hdepth))
    obtain ⟨hl, hr⟩ := List.forall_mem_append.mp hf
    obtain ⟨hdl, hdr⟩ := Nat.max_le.mp (Nat.le_of_succ_le_succ hdepth)
    rw [Formula.tree, evalTree, ihl hl hdl, ihr hr hdr, Formula.value]
    cases l.value ρ with
    | none => rfl
    | some a =>
      cases r.value ρ with
      | none => rfl
      | some b => exact apply_operator op a b

/-- So many operators nest neither too high to be built nor too deep to be evaluated. -/
theorem value_tree {f : Formula} (hf : f.Bound store ρ) (hlevels : f.levels ≤ 400) :
    f.tree.value store = answer (f.value ρ) := by
  have hheight : ¬maxHeight < f.tree.height := by
    have hle : f.levels + 1 ≤ maxHeight := Nat.le_trans (Nat.succ_le_succ hlevels) (by decide)
    rw [f.height_tree]
    exact Nat.not_lt.mpr hle
  rw [Tree.value, if_neg hheight]
  exact evalTree_tree hf (Nat.le_trans hlevels (by decide))

end LineScript.Arithmetic
