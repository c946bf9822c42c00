import LineScript.Cause
import LineScript.Decimal.Reading
import LineScript.Decimal.Written
import LineScript.Value

/-! Number literals: an optional sign and ASCII digits, and for a float a point or an exponent. An
    integer literal outside the 64-bit range is none, and is then read as a float. -/

namespace LineScript.Literal

/-- The sign and the digits of a text that consists of nothing else. -/
def signedDigits? (t : Text) : Option (Bool × Text) :=
  let (negative, digits) := Decimal.splitSign t
  if digits.isEmpty || !digits.all CodePoint.isDigit then none else some (negative, digits)

/-- The integer that the text denotes, if it is a literal of one in range. -/
def integer? (t : Text) : Except Cause (Option Int) :=
  match signedDigits? t with
  | none => .ok none
  | some (negative, digits) =>
    if Decimal.maxDigits < digits.length then .error (.longInteger digits.length)
    else
      let n := Decimal.signed negative (Decimal.natural digits)
      .ok (if inRange n then some n else none)

/-- An exponent, which ends the text. -/
def exponent? : Text → Option Int
  | [] => some 0
  | mark :: rest =>
    if mark = 'e' ∨ mark = 'E' then
      (signedDigits? rest).map fun p => Decimal.signed p.1 (Decimal.natural p.2)
    else none

/-- The float that the text denotes, if it is a literal of one. -/
def float? (t : Text) : Option Float :=
  let (negative, rest) := Decimal.splitSign t
  let whole := rest.takeWhile CodePoint.isDigit
  let (fraction, rest) := match rest.dropWhile CodePoint.isDigit with
    | .char '.' :: more => (more.takeWhile CodePoint.isDigit, more.dropWhile CodePoint.isDigit)
    | more => ([], more)
  if whole.isEmpty && fraction.isEmpty then none
  else (exponent? rest).map fun e =>
    Decimal.negateIf negative (Decimal.ofParts whole fraction e)

end LineScript.Literal
