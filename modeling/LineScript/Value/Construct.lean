import LineScript.Json.Number
import LineScript.Json.Printer
import LineScript.Value

/-! Values made from data of any shape, and how a value describes itself. -/

namespace LineScript.Value

/-- Why data makes no value of the kind that is wanted. -/
inductive Misfit where
  | number (fault : Json.NumberFault)
  | outOfRange (n : Int)
deriving DecidableEq, Repr

/-- The wording of a misfit. -/
def Misfit.message : Misfit → Text
  | .number fault => fault.message
  | .outOfRange n => Text.ofInt n ++ " does not fit in a 64-bit integer".toText

/-- The integer value of `n`, if it is in range. -/
def ofInteger (n : Int) : Except Misfit Value :=
  if inRange n then .ok (.integer n) else .error (.outOfRange n)

/-- The value of a kind that data stands for. -/
def construct (kind : Kind) (data : Json) : Except Misfit Value :=
  match kind with
  | .integer => do
    let n ← data.toInteger.mapError .number
    ofInteger n
  | .float => do
    let x ← data.toFloat.mapError .number
    return .float x
  | .boolean => .ok (.boolean data.truthy)
  | .string => .ok (.string data.plain)

/-- The content of a value as data. -/
def data : Value → Json
  | .integer n => .int n
  | .float x => .float x
  | .boolean b => .bool b
  | .string t => .str t

/-- A value with its kind, for a reader of messages. -/
def describe (v : Value) : Text :=
  "Value(".toText ++ v.kind.name ++ ", ".toText ++ v.data.inner ++ ")".toText

end LineScript.Value
