import LineScript.Decimal.Reading
import LineScript.Decimal.Written

/-! Numbers inside expressions: integers without bound, in decimal or in base sixteen, eight or two, and
    floats. Single underscores may divide the digits. -/

namespace LineScript.Arithmetic

/-- The two kinds of number, unbounded integers and floats. -/
inductive Number where
  | integer (n : Int)
  | float (x : Float)
deriving DecidableEq

/-- What a text of digits writes: a number, an imaginary one, or an integer of too many digits. -/
inductive Numeral where
  | number (n : Number)
  | imaginary
  | unreadable
deriving DecidableEq

/-- Whether a character may stand in a name, before the Unicode properties are looked at. -/
def namelike (c : CodePoint) : Bool := c.isDigit || c.isLetter || c = '_' || decide (128 ≤ c.toNat)

/-! ### Other bases -/

/-- The value of a digit in a base up to sixteen. -/
def digitOf (c : CodePoint) : Nat :=
  if c.isDigit then c.toNat - 48 else if c ≤ 'Z' then c.toNat - 55 else c.toNat - 87

/-- The digits of a base, in either case. -/
def isDigitBelow (base : Nat) (c : CodePoint) : Bool :=
  (c.isDigit || (decide ('a' ≤ c) && decide (c ≤ 'f')) || (decide ('A' ≤ c) && decide (c ≤ 'F'))) &&
    decide (digitOf c < base)

/-- The base that a letter after a leading zero announces. -/
def base? (c : CodePoint) : Option Nat :=
  if c = 'x' ∨ c = 'X' then some 16
  else if c = 'o' ∨ c = 'O' then some 8
  else if c = 'b' ∨ c = 'B' then some 2
  else none

/-- The integer that digits write in a base. -/
def valueIn (base : Nat) (digits : Text) : Nat := digits.foldl (fun n c => n * base + digitOf c) 0

/-- A number in another base, after the zero and the letter. -/
def based? (base : Nat) (t : Text) : Option (Numeral × Text) := do
  let (digits, rest) ← Decimal.digitRun? (isDigitBelow base) t
  if digits.isEmpty then none else return (.number (.integer (valueIn base digits)), rest)

/-! ### Decimal -/

/-- Whether an exponent can go on so after its mark. -/
def startsPower (c : CodePoint) : Bool := c = '+' || c = '-' || c.isDigit

/-- The exponent at the start of a text, and what follows it. Without a sign or a digit after its mark
    there is none; a sign without digits is malformed. -/
def exponentPart? (t : Text) : Option (Option Int × Text) :=
  match t with
  | mark :: rest =>
    if (mark = 'e' ∨ mark = 'E') ∧ rest.head?.any startsPower then
      (Decimal.exponent? t).map fun p => (some p.1, p.2)
    else some (none, t)
  | [] => some (none, [])

/-- A number in decimal. An integer has no leading zeros, unless it is zero, and at most as many
    digits as are read. Digits with leading zeros before the mark of an exponent are a float, also
    where the exponent itself is wanting. -/
def decimal? (t : Text) : Option (Numeral × Text) := do
  let (whole, rest) ← Decimal.decimalRun? t
  let (fraction, rest) ← match rest with
    | .char '.' :: more => (Decimal.decimalRun? more).map fun p => (some p.1, p.2)
    | _ => some (none, rest)
  let (power, rest) ← exponentPart? rest
  match rest with
  | .char 'j' :: more => return (.imaginary, more)
  | .char 'J' :: more => return (.imaginary, more)
  | _ =>
    match fraction, power with
    | none, none =>
      if whole.all fun c : CodePoint => c = '0' then return (.number (.integer 0), rest)
      else if whole.head? = some (.char '0') then
        if Decimal.startsExponent rest then return (.number (.float (Decimal.ofParts whole [] 0)), rest)
        else none
      else if Decimal.maxDigits < whole.length then return (.unreadable, rest)
      else return (.number (.integer (Decimal.natural whole)), rest)
    | _, _ =>
      return (.number (.float (Decimal.ofParts whole (fraction.getD []) (power.getD 0))), rest)

/-! ### The end of a number -/

/-- Whether the text begins with a word and nothing that would lengthen it. -/
def startsWord (t word : Text) : Bool :=
  word.isPrefixOf t && !((t.drop word.length).head?.any namelike)

/-- Whether a number can end before the text: nothing that could stand in a name touches it, save one
    of the words that may follow a number. -/
def endsNumber (t : Text) : Bool :=
  match t with
  | [] => true
  | c :: _ =>
    !namelike c ||
      ["and", "else", "for", "or", "not"].any (fun word => startsWord t word.toText) ||
      ["if", "in", "is"].any (fun word => word.toText.isPrefixOf t)

/-- A number at the start of the text. -/
def number? (t : Text) : Option (Numeral × Text) := do
  let (n, rest) ← match t with
    | .char '0' :: c :: more =>
      match base? c with
      | some base => based? base more
      | none => decimal? t
    | _ => decimal? t
  if endsNumber rest then return (n, rest) else none

end LineScript.Arithmetic
