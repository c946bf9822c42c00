import LineScript.Decimal.Integer

/-! What makes a text no JSON, and where. -/

namespace LineScript.Json

/-- What the reader met instead of what it wanted. -/
inductive Complaint where
  | value
  | extraData
  | memberName
  | colon
  | comma
  | unterminated
  | control
  | escape
  | codeEscape
  | byteOrderMark
deriving DecidableEq, Repr

/-- The wording of a complaint. -/
def Complaint.message : Complaint → Text
  | .value => "Expecting value".toText
  | .extraData => "Extra data".toText
  | .memberName => "Expecting property name enclosed in double quotes".toText
  | .colon => "Expecting ':' delimiter".toText
  | .comma => "Expecting ',' delimiter".toText
  | .unterminated => "Unterminated string starting at".toText
  | .control => "Invalid control character at".toText
  | .escape => "Invalid \\escape".toText
  | .codeEscape => "Invalid \\uXXXX escape".toText
  | .byteOrderMark => "Unexpected UTF-8 BOM (decode using utf-8-sig)".toText

/-- A fault. An integer of too many digits is one without a place, and so is nesting beyond the
    reader's depth. -/
inductive ReadError where
  | malformed (complaint : Complaint) (line column position : Nat)
  | longInteger (digits : Nat)
  | tooDeep
deriving DecidableEq, Repr

/-- The wording of an error in reading, with its place. -/
def ReadError.message : ReadError → Text
  | .malformed complaint line column position =>
    complaint.message ++ ": line ".toText ++ Text.ofNat line ++ " column ".toText ++
      Text.ofNat column ++ " (char ".toText ++ Text.ofNat position ++ ")".toText
  | .longInteger digits => Decimal.longIntegerMessage digits
  | .tooDeep => []

/-- The fault at a position of a text, with its line and column counted from one. -/
def ReadError.ofPosition (complaint : Complaint) (t : Text) (position : Nat) : ReadError :=
  let before := t.take position
  let column := (before.reverse.takeWhile (fun c : CodePoint => c ≠ '\n')).length + 1
  .malformed complaint (before.count (CodePoint.char '\n') + 1) column position

end LineScript.Json
