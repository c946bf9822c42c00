import LineScript.Decimal.Exact

/-! The fewest decimal digits that read back as the same float. A grid of `k` digits is tried for
    `k = 1, 2, …`: the first grid on which a neighbour of the value lies among the reals that round
    to the float wins, the nearer neighbour is taken, and a tie goes to the even one. -/

namespace LineScript.Decimal

/-- The decimal number `coefficient · 10^exponent`. -/
structure Scaled where
  coefficient : Nat
  exponent : Int
deriving DecidableEq, Repr

/-- The reals that round to `m · 2^q`, in quarters of `2^q`: the lower end, the upper end, and
    whether the ends belong to them. -/
structure Interval where
  lower : Nat
  upper : Nat
  closed : Bool

/-- The interval of what is rounded to the float of this significand and exponent, in quarters of its last place. -/
def interval (m : Nat) (q : Int) : Interval where
  lower := if m = 2 ^ 52 ∧ -1074 < q then 4 * m - 1 else 4 * m - 2
  upper := 4 * m + 2
  closed := m % 2 = 0

/-- How many digits stand before the point of `m · 2^q`; zero or less for a value below one. -/
def magnitude (m : Nat) (q : Int) : Int :=
  ((Nat.toDigits 10 (m * 2 ^ q.toNat * 10 ^ 400 / 2 ^ (-q).toNat)).length : Int) - 400

/-- The neighbour of `m · 2^q` among the multiples of `10^g` that reads back, if one does. -/
def onGrid? (m : Nat) (q g : Int) : Option Scaled :=
  let quarter := q - 2
  let step := 10 ^ g.toNat * 2 ^ (-quarter).toNat
  let unit := 2 ^ quarter.toNat * 10 ^ (-g).toNat
  let i := interval m q
  let value := 4 * m * unit
  let below := value / step
  let inside (c : Nat) : Bool :=
    if i.closed then decide (i.lower * unit ≤ c * step) && decide (c * step ≤ i.upper * unit)
    else decide (i.lower * unit < c * step) && decide (c * step < i.upper * unit)
  let down := value - below * step
  let up := (below + 1) * step - value
  match inside below, inside (below + 1) with
  | true, true =>
    if down < up ∨ (down = up ∧ below % 2 = 0) then some ⟨below, g⟩ else some ⟨below + 1, g⟩
  | true, false => some ⟨below, g⟩
  | false, true => some ⟨below + 1, g⟩
  | false, false => none

/-- Tries the grids of `k`, `k + 1`, … digits, `tries` of them; the last resort is the finest. -/
def search (m : Nat) (q size : Int) : Nat → Nat → Scaled
  | 0, k => ⟨4 * m * 2 ^ (q - 2).toNat * 10 ^ (k - size).toNat / (10 ^ (size - k).toNat *
      2 ^ (2 - q).toNat), size - k⟩
  | tries + 1, k => (onGrid? m q (size - k)).getD (search m q size tries (k + 1))

/-- The number with the zeros at the end of its coefficient moved into the exponent, at most
    `limit` of them. -/
def dropZeros : Nat → Scaled → Scaled
  | 0, s => s
  | limit + 1, s =>
    if s.coefficient ≠ 0 ∧ s.coefficient % 10 = 0 then
      dropZeros limit ⟨s.coefficient / 10, s.exponent + 1⟩
    else s

/-- The shortest decimal that reads back as `m · 2^q`. -/
def shortest (m : Nat) (q : Int) : Scaled :=
  if m = 0 then ⟨0, 0⟩ else dropZeros 20 (search m q (magnitude m q) 17 1)

end LineScript.Decimal
