import LineScript.Decimal.Notation

/-! The values of a program: 64-bit integers, floats, booleans and texts. -/

namespace LineScript

/-- The kinds of values. -/
inductive Kind where
  | integer
  | float
  | boolean
  | string
deriving DecidableEq, Repr

/-- The word for a kind. -/
def Kind.name : Kind → Text
  | .integer => "Integer".toText
  | .float => "Float".toText
  | .boolean => "Boolean".toText
  | .string => "String".toText

/-- The values of the language. -/
inductive Value where
  | integer (n : Int)
  | float (x : Float)
  | boolean (b : Bool)
  | string (t : Text)
deriving DecidableEq, Inhabited

namespace Value

/-- The kind of a value. -/
def kind : Value → Kind
  | .integer _ => .integer
  | .float _ => .float
  | .boolean _ => .boolean
  | .string _ => .string

/-- Whether the value is a number. -/
def numeric : Value → Bool
  | .integer _ => true
  | .float _ => true
  | _ => false

/-- The text that a print or a marker shows for the value. -/
def display : Value → Text
  | .integer n => Text.ofInt n
  | .float x => Decimal.display.write x
  | .boolean b => if b then "true".toText else "false".toText
  | .string t => t

end Value

/-- The least integer of the language. -/
def minInteger : Int := -(2 ^ 63)

/-- The greatest integer of the language. -/
def maxInteger : Int := 2 ^ 63 - 1

/-- Whether an integer is one that a program can hold. -/
def inRange (n : Int) : Bool := decide (minInteger ≤ n) && decide (n ≤ maxInteger)

end LineScript
