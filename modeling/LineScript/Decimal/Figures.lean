import LineScript.Decimal.Shortest
import LineScript.Decimal.Wide

/-! The first fifteen digits of a float, found one after the other in wide arithmetic. Half a unit of
    the last digit is added first and the rest cut off, so what is halfway between two numbers of
    fifteen digits goes up, unless the rounding on the way has moved it. -/

namespace LineScript.Decimal

/-- How many digits are kept. -/
def figureCount : Nat := 15

/-- The scale for `x`: it is multiplied by `step`, which is ten to the power `size`, as long as the
    product does not pass `x`. The exponent of the scale grows with it. -/
def climb (x step : Wide) (size : Int) : Nat → Wide × Int → Wide × Int
  | 0, s => s
  | tries + 1, (scale, exponent) =>
    let next := step.mul scale
    if x.less next then (scale, exponent) else climb x step size tries (next, exponent + size)

/-- The number multiplied by `step`, which is ten to the power `size`, as long as it lies below a
    bound. -/
def raise (bound step : Wide) (size : Int) : Nat → Wide × Int → Wide × Int
  | 0, s => s
  | tries + 1, (x, exponent) =>
    if x.less bound then raise bound step size tries (x.mul step, exponent - size) else (x, exponent)

/-- A number above zero as one from one to ten, with its exponent. -/
def leading (x : Wide) : Wide × Int :=
  let wide (y : Float) : Wide := .ofFloat y
  let (scale, exponent) :=
    climb x (wide 10) 1 12 (climb x (wide 1e10) 10 12 (climb x (wide 1e100) 100 12 (.ofNat 1, 0)))
  raise (wide 1) (wide 10) 1 12 (raise (wide 1e-8) (wide 1e8) 8 50 (x.div scale, exponent))

/-- The digits of a number from zero to ten as one number, with `count` of them after those in `n`. -/
def gather : Nat → Nat → Wide → Nat
  | 0, n, _ => n
  | count + 1, n, x =>
    let (digit, rest) := x.split
    gather count (10 * n + digit) (rest.mul (.ofNat 10))

/-- `m · 2^q` to fifteen digits, zeros at the end left out. -/
def figures (m : Nat) (q : Int) : Scaled :=
  let (x, exponent) := leading ⟨m, q⟩
  let x := x.add (.ofFloat (5e-05 * 1e-10))
  let (x, exponent) := if x.less (.ofNat 10) then (x, exponent) else (x.mul (.ofFloat 0.1), exponent + 1)
  if m = 0 then ⟨0, 0⟩
  else dropZeros figureCount ⟨gather figureCount 0 x, exponent + 1 - figureCount⟩

end LineScript.Decimal
