import LineScript.Decimal.Shortest
import LineScript.Text.Basic

/-! How a float is written: its digits, positionally when the exponent of the leading digit lies in a
    range, otherwise with a signed exponent. -/

namespace LineScript.Decimal

/-- The decisions of a way to write floats. -/
structure Layout where
  /-- The digits that stand for the float `m · 2^q`. -/
  digits : Nat → Int → Scaled
  /-- The least exponent of the leading digit that is written positionally. -/
  plainFrom : Int
  /-- The first exponent that is too large for it. -/
  plainBelow : Int
  /-- The least number of digits of a written exponent. -/
  exponentWidth : Nat
  /-- Whether a mantissa of one digit gets a point and a zero. -/
  wideMantissa : Bool
  /-- Whether a zero below zero shows its sign. -/
  signedZero : Bool
  infinity : Text
  undefined : Text

/-- The layout in which programs show their floats: the fewest digits, positionally from 10^-4 to below
    10^16. -/
def display : Layout where
  digits := shortest
  plainFrom := -4
  plainBelow := 16
  exponentWidth := 2
  wideMantissa := false
  signedZero := true
  infinity := "inf".toText
  undefined := "nan".toText

/-- So many zeros. -/
def zeros (n : Nat) : Text := List.replicate n '0'

/-- The digits with the point after the first `point` of them, and at least one digit on each side. -/
def positional (digits : Text) (point : Int) : Text :=
  if point ≤ 0 then "0.".toText ++ zeros (-point).toNat ++ digits
  else if (digits.length : Int) ≤ point then
    digits ++ zeros (point.toNat - digits.length) ++ ".0".toText
  else digits.take point.toNat ++ ".".toText ++ digits.drop point.toNat

/-- The digits with the point after the first, and the exponent of the first. -/
def Layout.scientific (l : Layout) (digits : Text) (exponent : Int) : Text :=
  let mantissa : Text := match digits with
    | [] => []
    | [d] => if l.wideMantissa then [d, '.', '0'] else [d]
    | d :: rest => d :: '.' :: rest
  let power := Text.ofNat exponent.natAbs
  mantissa ++ (if exponent < 0 then "e-" else "e+").toText ++ zeros (l.exponentWidth - power.length) ++ power

/-- The text of a number without its sign. -/
def Layout.magnitude (l : Layout) (s : Scaled) : Text :=
  let digits := Text.ofNat s.coefficient
  let point := digits.length + s.exponent
  if s.coefficient = 0 then "0.0".toText
  else if l.plainFrom ≤ point - 1 ∧ point - 1 < l.plainBelow then positional digits point
  else l.scientific digits (point - 1)

/-- The text of a float. -/
def Layout.write (l : Layout) (x : Float) : Text :=
  match exact x with
  | .undefined => l.undefined
  | .infinite negative => (if negative then "-" else "").toText ++ l.infinity
  | .finite negative m q =>
    (if negative && (l.signedZero || m != 0) then "-" else "").toText ++ l.magnitude (l.digits m q)

end LineScript.Decimal
