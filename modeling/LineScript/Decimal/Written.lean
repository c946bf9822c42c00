import LineScript.Decimal.Integer

/-! The parts of a written number: its sign, its runs of digits, which single underscores may divide,
    and its exponent. -/

namespace LineScript.Decimal

/-- Whether a minus sign stands in front, and what follows the sign. -/
def splitSign : Text → Bool × Text
  | .char '-' :: rest => (true, rest)
  | .char '+' :: rest => (false, rest)
  | t => (false, t)

/-- A run of digits with single underscores before or between them; the underscores are dropped. An
    underscore that no digit follows makes it malformed. -/
def digitRun? (isDigit : CodePoint → Bool) : Text → Option (Text × Text)
  | [] => some ([], [])
  | c :: rest =>
    if isDigit c then (digitRun? isDigit rest).map fun p => (c :: p.1, p.2)
    else if c = '_' then
      match rest with
      | d :: _ => if isDigit d then digitRun? isDigit rest else none
      | [] => none
    else some ([], c :: rest)

/-- A run of decimal digits that begins with a digit; it is empty when another character comes first. -/
def decimalRun? (t : Text) : Option (Text × Text) :=
  match t with
  | d :: _ => if d.isDigit then digitRun? CodePoint.isDigit t else some ([], t)
  | [] => some ([], [])

/-- Whether a text starts with the mark of an exponent. -/
def startsExponent : Text → Bool
  | mark :: _ => mark = 'e' || mark = 'E'
  | [] => false

/-- An exponent and what follows it. Where no mark stands the exponent is zero; a mark without digits is
    malformed. -/
def exponent? : Text → Option (Int × Text)
  | [] => some (0, [])
  | mark :: rest =>
    if mark = 'e' ∨ mark = 'E' then
      let (negative, rest) := splitSign rest
      match decimalRun? rest with
      | none => none
      | some ([], _) => none
      | some (digits, rest) => some (signed negative (natural digits), rest)
    else some (0, mark :: rest)

end LineScript.Decimal
