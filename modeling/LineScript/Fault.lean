import LineScript.Json.Number
import LineScript.Text.Utf8

/-! What keeps a request from giving a result at all: a setting that is no number, or data of the
    wrong shape. -/

namespace LineScript

/-- What keeps a run from giving a report at all. -/
inductive Fault where
  | number (fault : Json.NumberFault)
  | noMember (kind member : Text)
  | unhashable (kind : Text)
  | noSum (kind : Text)
  | notOrdered (kind : Text)
  | unencodable (fault : Text.EncodeFault)
  | nullByte
  | tooDeep
  | waitTooLong
  | waitBeyondClock
  | tooFewWorkers
deriving DecidableEq, Repr

/-- The wording of a fault. -/
def Fault.message : Fault → Text
  | .number fault => fault.message
  | .noMember kind member =>
    "'".toText ++ kind ++ "' object has no attribute '".toText ++ member ++ "'".toText
  | .unhashable kind => "unhashable type: '".toText ++ kind ++ "'".toText
  | .noSum kind => "unsupported operand type(s) for +: 'float' and '".toText ++ kind ++ "'".toText
  | .notOrdered kind =>
    "'<=' not supported between instances of '".toText ++ kind ++ "' and 'int'".toText
  | .unencodable fault => fault.message
  | .nullByte => "embedded null byte".toText
  | .tooDeep => "maximum recursion depth exceeded".toText
  | .waitTooLong => "timeout is too large".toText
  | .waitBeyondClock => "timestamp too large to convert to C _PyTime_t".toText
  | .tooFewWorkers => "max_workers must be greater than 0".toText

/-- The members of a value that has to be an object; `wanted` is what is asked of it. -/
def Json.members (wanted : Text) : Json → Except Fault (List (Text × Json))
  | .obj members => .ok members
  | v => .error (.noMember v.kindName wanted)

end LineScript
