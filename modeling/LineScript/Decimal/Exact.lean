import LineScript.Decimal.Integer

/-! The exact value of a 64-bit float, and what is read off it: the part before the point, and the
    float nearest to an integer. -/

namespace LineScript.Decimal

/-- What a float stands for; a finite one is `± m · 2^q`. -/
inductive Exact where
  | undefined
  | infinite (negative : Bool)
  | finite (negative : Bool) (m : Nat) (q : Int)
deriving DecidableEq, Repr

/-- The exact value of a float, read off its bits. -/
def exact (x : Float) : Exact :=
  let bits := x.toBits.toNat
  let negative := decide (2 ^ 63 ≤ bits)
  let exponent : Nat := bits / 2 ^ 52 % 2 ^ 11
  let fraction := bits % 2 ^ 52
  if exponent = 2047 then
    if fraction = 0 then .infinite negative else .undefined
  else if exponent = 0 then .finite negative fraction (-1074)
  else .finite negative (2 ^ 52 + fraction) ((exponent : Int) - 1075)

/-- The integer part of a finite float, cut toward zero. -/
def truncate? (x : Float) : Option Int :=
  match exact x with
  | .finite negative m q =>
    some (signed negative (if 0 ≤ q then m * 2 ^ q.toNat else m / 2 ^ (-q).toNat))
  | _ => none

/-- The integer that a float is equal to. -/
def whole? (x : Float) : Option Int :=
  match exact x with
  | .finite negative m q =>
    if 0 ≤ q then some (signed negative (m * 2 ^ q.toNat))
    else if m % 2 ^ (-q).toNat = 0 then some (signed negative (m / 2 ^ (-q).toNat))
    else none
  | _ => none

/-- The float nearest to an integer, a tie going to the even one; none beyond the largest float. -/
def ofInt? (n : Int) : Option Float :=
  let x := Float.ofInt n
  match exact x with
  | .infinite _ => none
  | _ => some x

end LineScript.Decimal
