import LineScript.Decimal.Exact

/-! Floats with a significand of 64 bits and exponents without bound. Only numbers that are not below
    zero are held; every operation gives the float nearest to the exact result, a tie going to the even
    one. -/

namespace LineScript.Decimal

/-- The integer nearest to `n / d`, a tie going to the even one. -/
def nearestQuotient (n d : Nat) : Nat :=
  let k := n / d
  let excess := 2 * (n % d)
  if excess < d ∨ (excess = d ∧ k % 2 = 0) then k else k + 1

/-- The number `significand · 2^exponent`. -/
structure Wide where
  significand : Nat
  exponent : Int
deriving DecidableEq, Repr

namespace Wide

/-- The float nearest to `n / d · 2^q`. -/
def ofQuotient (n d : Nat) (q : Int) : Wide :=
  let scaled (shift : Int) : Nat × Nat := (n * 2 ^ shift.toNat, d * 2 ^ (-shift).toNat)
  let first : Int := 63 + d.log2 - n.log2
  let (top, bottom) := scaled first
  let shift := if top / bottom < 2 ^ 63 then first + 1 else first
  let (top, bottom) := scaled shift
  if n = 0 then ⟨0, 0⟩ else ⟨nearestQuotient top bottom, q - shift⟩

/-- The wide number of a natural one. -/
def ofNat (n : Nat) : Wide := ofQuotient n 1 0

/-- A finite 64-bit float without its sign; zero stands for the others. -/
def ofFloat (x : Float) : Wide :=
  match exact x with
  | .finite _ m q => ⟨m, q⟩
  | _ => ⟨0, 0⟩

/-- The rounded product. -/
def mul (x y : Wide) : Wide := ofQuotient (x.significand * y.significand) 1 (x.exponent + y.exponent)

/-- The rounded quotient. -/
def div (x y : Wide) : Wide := ofQuotient x.significand y.significand (x.exponent - y.exponent)

/-- The significands of two numbers over the smaller of their exponents. -/
def aligned (x y : Wide) : Nat × Nat :=
  (x.significand * 2 ^ (x.exponent - y.exponent).toNat, y.significand * 2 ^ (y.exponent - x.exponent).toNat)

/-- The rounded sum. -/
def add (x y : Wide) : Wide :=
  let (a, b) := aligned x y
  ofQuotient (a + b) 1 (min x.exponent y.exponent)

/-- Whether `x` is smaller than `y`. -/
def less (x y : Wide) : Bool :=
  let (a, b) := aligned x y
  decide (a < b)

/-- The part before the point, and what is left of the number without it. -/
def split (x : Wide) : Nat × Wide :=
  let unit := 2 ^ (-x.exponent).toNat
  if 0 ≤ x.exponent then (x.significand * 2 ^ x.exponent.toNat, ⟨0, 0⟩)
  else (x.significand / unit, ⟨x.significand % unit, x.exponent⟩)

/-- The 64-bit float nearest to a number, a tie going to the even one. -/
def toFloat (x : Wide) : Float :=
  let unit := max ((x.significand.log2 : Int) + x.exponent - 52) (-1074)
  let steps :=
    nearestQuotient (x.significand * 2 ^ (x.exponent - unit).toNat) (2 ^ (unit - x.exponent).toNat)
  let bits := (unit + 1074).toNat * 2 ^ 52 + steps
  if x.significand = 0 then 0 else Float.ofBits (UInt64.ofNat (min bits (0x7FF * 2 ^ 52)))

/-- `r · x ^ e` by repeated squaring, each product rounded. -/
def power (r x : Wide) (e : Nat) : Wide :=
  let r := if e % 2 = 1 then r.mul x else r
  if e / 2 = 0 then r else power r (x.mul x) (e / 2)
termination_by e

/-- A power of ten. -/
def tenTo (e : Nat) : Wide := power (ofNat 1) (ofNat 10) e

end Wide
end LineScript.Decimal
