import LineScript.Decimal.Reading
import LineScript.Decimal.Wide
import LineScript.Decimal.Written
import LineScript.Value

/-! Numbers written in texts, as an integer column reads them. The first eighteen or nineteen digits are
    gathered into an integer, which a power of ten then scales in wide arithmetic. -/

namespace LineScript.Archive

/-- A number as it is written: whether it is below zero, its digits before and after a point, whether
    there is a point, and an exponent with its sign. -/
structure Numeral where
  negative : Bool
  whole : Text
  pointed : Bool
  fraction : Text
  power : Option (Bool × Text)
deriving DecidableEq

namespace Numeral

/-- The characters that are passed over around a numeral. -/
def isSpace (c : CodePoint) : Bool := c = ' ' || decide (0x09 ≤ c.toNat) && decide (c.toNat ≤ 0x0D)

/-- The decimal digits at the start of a text, and the rest. -/
def digits (t : Text) : Text × Text := (t.takeWhile CodePoint.isDigit, t.dropWhile CodePoint.isDigit)

/-- The number that a text is, spaces around it aside. It has a digit before or after its point, and a
    digit after the mark of an exponent. -/
def ofText? (t : Text) : Option Numeral :=
  let (negative, rest) := Decimal.splitSign (t.dropWhile isSpace)
  let (whole, rest) := digits rest
  let (pointed, fraction, rest) := match rest with
    | .char '.' :: more => (true, digits more)
    | _ => (false, [], rest)
  let (power, rest) :=
    if Decimal.startsExponent rest then
      let (below, more) := Decimal.splitSign rest.tail
      (some (below, (digits more).1), (digits more).2)
    else (none, rest)
  if (whole.isEmpty && fraction.isEmpty) || power.any (·.2.isEmpty) || !rest.all isSpace then none
  else some ⟨negative, whole, pointed, fraction, power⟩

/-! ### The value -/

/-- The value of a decimal digit. -/
def digitValue (c : CodePoint) : Nat := c.toNat - 48

/-- An integer of at least this size takes no further digit. -/
def gatherLimit : Nat := (maxInteger.toNat - 9) / 10

/-- Takes the digits into `n · 10^e` one after the other; a digit taken costs `taken` in the exponent,
    and one that finds no room `left`. -/
def gather (taken left : Int) (start : Nat × Int) (t : Text) : Nat × Int :=
  t.foldl (fun (n, e) c =>
    if gatherLimit ≤ n then (n, e + left) else (10 * n + digitValue c, e + taken)) start

/-- The size of a written exponent; beyond ten thousand it does not grow. -/
def powerSize (t : Text) : Nat :=
  t.foldl (fun e c => if e < 10000 then 10 * e + digitValue c else 10000) 0

/-- Multiplies by ten as often as the exponent asks, while there is room; what is left of the exponent
    comes with the number. -/
def enlarge : Nat → Nat → Nat × Nat
  | 0, n => (n, 0)
  | e + 1, n => if maxInteger.toNat / 10 ≤ n then (n, e + 1) else enlarge e (10 * n)

/-- Divides by ten as often as the exponent asks, while nothing is left over. -/
def reduce : Nat → Nat → Nat × Nat
  | 0, n => (n, 0)
  | e + 1, n => if n % 10 = 0 then reduce e (n / 10) else (n, e + 1)

/-- The float for `n · 10^e`, where `n` takes no further ten. -/
def scaledUp (n e : Nat) : Float :=
  let x := Decimal.Wide.ofNat n
  if e ≤ 307 then (x.mul (.tenTo e)).toFloat
  else if e < 342 then (x.mul (.tenTo (e - 308))).toFloat * 1e308
  else Decimal.infinity

/-- The float for `n / 10^e`, where `n` is no multiple of ten. -/
def scaledDown (n e : Nat) : Float :=
  let x := Decimal.Wide.ofNat n
  if e ≤ 307 then (x.div (.tenTo e)).toFloat
  else if e < 342 then (x.div (.tenTo (e - 308))).toFloat / 1e308
  else 0

/-- The float that a number is taken for. -/
def toFloat (x : Numeral) : Float :=
  let (n, shift) := gather (-1) 0 (gather 0 1 (0, 0) x.whole) x.fraction
  let e := shift + x.power.elim 0 fun (below, t) => Decimal.signed below (powerSize t)
  let size :=
    if n = 0 then 0
    else if 0 ≤ e then let (n, e) := enlarge e.toNat n; scaledUp n e
    else let (n, e) := reduce (-e).toNat n; scaledDown n e
  Decimal.negateIf x.negative size

/-- The integer that a number without point and exponent is. -/
def integer? (x : Numeral) : Option Int :=
  if x.pointed || x.power.isSome then none
  else some (Decimal.signed x.negative (Decimal.natural x.whole))

end Numeral
end LineScript.Archive
