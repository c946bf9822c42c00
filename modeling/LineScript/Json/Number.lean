import LineScript.Decimal.Exact
import LineScript.Decimal.Reading
import LineScript.Decimal.Written
import LineScript.Json.Basic
import LineScript.Text.Blank
import LineScript.Text.Digit
import LineScript.Text.Quoted

/-! Numbers wanted from JSON values. An integer is read from an integer, a truth value, a float, whose
    fraction is cut off, or a text of decimal digits; a float from the same and from texts with a
    point or an exponent. Digits may be of any script, with single underscores between them. -/

namespace LineScript.Json

/-- Why a value is not the number that is wanted. -/
inductive NumberFault where
  | notInteger (written : Text)
  | longInteger (digits : Nat)
  | infinite
  | undefined
  | noInteger (kind : Text)
  | notFloat (written : Text)
  | beyondFloat
  | noFloat (kind : Text)
  | unwritable
deriving DecidableEq, Repr

/-- The wording of a fault. Of a text that is no integer at most two hundred characters are shown. -/
def NumberFault.message : NumberFault → Text
  | .notInteger t => "invalid literal for int() with base 10: ".toText ++ (Text.quoted t).take 200
  | .longInteger digits => Decimal.longIntegerMessage digits
  | .infinite => "cannot convert float infinity to integer".toText
  | .undefined => "cannot convert float NaN to integer".toText
  | .noInteger kind =>
    "int() argument must be a string, a bytes-like object or a real number, not '".toText ++ kind ++
      "'".toText
  | .notFloat t => "could not convert string to float: ".toText ++ Text.quoted t
  | .beyondFloat => "int too large to convert to float".toText
  | .noFloat kind =>
    "float() argument must be a string or a real number, not '".toText ++ kind ++ "'".toText
  | .unwritable => Decimal.unwritableMessage

/-! ### Written numbers -/

/-- A blank that may surround a written number: all but the four information separators. -/
def isNumberBlank (c : CodePoint) : Bool :=
  Text.isBlank c && !(decide (0x1C ≤ c.toNat) && decide (c.toNat ≤ 0x1F))

/-- A text without the blanks that may stand around a number. -/
def trimNumber (t : Text) : Text :=
  ((t.dropWhile isNumberBlank).reverse.dropWhile isNumberBlank).reverse

/-- A digit of any script as the ASCII digit of its value; other characters as they are. -/
def asciiDigit (c : CodePoint) : CodePoint :=
  match Text.digitValue? c with
  | some d => .ofNat (48 + d)
  | none => c

/-- The integer that a text writes. The digits are counted before anything after them is looked at,
    except for a misplaced underscore. -/
def integerOfText (written : Text) : Except NumberFault Int :=
  let (negative, rest) := Decimal.splitSign (trimNumber (written.map asciiDigit))
  match Decimal.decimalRun? rest with
  | none => .error (.notInteger written)
  | some (digits, rest) =>
    if digits.isEmpty then .error (.notInteger written)
    else if Decimal.maxDigits < digits.length then .error (.longInteger digits.length)
    else if rest.isEmpty then .ok (Decimal.signed negative (Decimal.natural digits))
    else .error (.notInteger written)

/-- The words for the floats that are no numbers, in lower case. -/
def floatWord? (t : Text) : Option Float :=
  let word := Text.ofChars ((Text.chars t).map Char.toLower)
  if word = "inf".toText || word = "infinity".toText then some (Float.ofBits 0x7FF0000000000000)
  else if word = "nan".toText then some (Float.ofBits 0x7FF8000000000000)
  else none

/-- The float that an unsigned text of digits writes. -/
def magnitudeOfText? (t : Text) : Option Float := do
  let (whole, rest) ← Decimal.decimalRun? t
  let (fraction, rest) ← match rest with
    | .char '.' :: more => Decimal.decimalRun? more
    | _ => some ([], rest)
  let (e, rest) ← Decimal.exponent? rest
  if (whole.isEmpty && fraction.isEmpty) || !rest.isEmpty then none
  else return Decimal.ofParts whole fraction e

/-- The float that a text denotes. -/
def floatOfText (written : Text) : Except NumberFault Float :=
  let (negative, rest) := Decimal.splitSign (trimNumber (written.map asciiDigit))
  match (floatWord? rest).or (magnitudeOfText? rest) with
  | some x => .ok (Decimal.negateIf negative x)
  | none => .error (.notFloat written)

/-! ### Values -/

/-- The float cut toward zero, if it is finite. -/
def integerOfFloat (x : Float) : Except NumberFault Int :=
  match Decimal.exact x with
  | .infinite _ => .error .infinite
  | _ =>
    match Decimal.truncate? x with
    | some n => .ok n
    | none => .error .undefined

/-- The integer that a value stands for. -/
def toInteger : Json → Except NumberFault Int
  | .int n => .ok n
  | .bool b => .ok (if b then 1 else 0)
  | .float x => integerOfFloat x
  | .str t => integerOfText t
  | v => .error (.noInteger v.kindName)

/-- The float that a value stands for. -/
def toFloat : Json → Except NumberFault Float
  | .float x => .ok x
  | .int n =>
    match Decimal.ofInt? n with
    | some x => .ok x
    | none => .error .beyondFloat
  | .bool b => .ok (if b then 1 else 0)
  | .str t => floatOfText t
  | v => .error (.noFloat v.kindName)

end LineScript.Json
