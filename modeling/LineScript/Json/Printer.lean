import LineScript.Decimal.Notation
import LineScript.Json.Basic
import LineScript.Text.Quoted

/-! Two ways to write a JSON value: as JSON, and as the plain text that stands for it inside a
    message. -/

namespace LineScript.Json

/-! ### As JSON -/

/-- The escape of a character by its code, in units of sixteen bits. -/
def writeCode (c : CodePoint) : Text :=
  let n := c.toNat
  if n < 0x10000 then "\\u".toText ++ Text.hex 4 n
  else
    "\\u".toText ++ Text.hex 4 (0xD800 + (n - 0x10000) / 0x400) ++
      "\\u".toText ++ Text.hex 4 (0xDC00 + (n - 0x10000) % 0x400)

/-- The letter of the short escape of a control character. -/
def shortEscape? : CodePoint → Option CodePoint
  | .char '\n' => some 'n'
  | .char '\r' => some 'r'
  | .char '\t' => some 't'
  | .char '\x08' => some 'b'
  | .char '\x0c' => some 'f'
  | _ => none

/-- A character within quotes. -/
def writeChar (c : CodePoint) : Text :=
  if c = '"' ∨ c = '\\' then ['\\', c]
  else if let some letter := shortEscape? c then ['\\', letter]
  else if 0x20 ≤ c.toNat ∧ c.toNat < 0x7F then [c]
  else writeCode c

/-- A text in quotes. -/
def writeString (t : Text) : Text := "\"".toText ++ t.flatMap writeChar ++ "\"".toText

/-- The spelling of a float, the words for the values that are no number included. -/
def floatLayout : Decimal.Layout :=
  { Decimal.display with infinity := "Infinity".toText, undefined := "NaN".toText }

mutual

/-- The text of a value, with a blank behind each comma and colon. -/
def write : Json → Text
  | .null => "null".toText
  | .bool b => if b then "true".toText else "false".toText
  | .int n => Text.ofInt n
  | .float x => floatLayout.write x
  | .str t => writeString t
  | .arr items => "[".toText ++ writeItems items ++ "]".toText
  | .obj members => "\x7b".toText ++ writeMembers members ++ "\x7d".toText

/-- The items of an array, with commas between them. -/
def writeItems : List Json → Text
  | [] => []
  | [v] => write v
  | v :: rest => write v ++ ", ".toText ++ writeItems rest

/-- The members of an object, with commas between them. -/
def writeMembers : List (Text × Json) → Text
  | [] => []
  | [(name, v)] => writeString name ++ ": ".toText ++ write v
  | (name, v) :: rest => writeString name ++ ": ".toText ++ write v ++ ", ".toText ++ writeMembers rest

end

mutual

/-- Whether no integer in the value has too many digits to be written as JSON. -/
def writable : Json → Bool
  | .int n => Decimal.isWritable n
  | .arr items => writableItems items
  | .obj members => writableMembers members
  | _ => true

/-- Whether all items can be written. -/
def writableItems : List Json → Bool
  | [] => true
  | v :: rest => writable v && writableItems rest

/-- Whether the values of all members can be written. -/
def writableMembers : List (Text × Json) → Bool
  | [] => true
  | (_, v) :: rest => writable v && writableMembers rest

end

/-! ### Inside a message -/

mutual

/-- The value inside an array or object: a text stands in quotes. -/
def inner : Json → Text
  | .null => "None".toText
  | .bool b => if b then "True".toText else "False".toText
  | .int n => Text.ofInt n
  | .float x => Decimal.display.write x
  | .str t => Text.quoted t
  | .arr items => "[".toText ++ innerItems items ++ "]".toText
  | .obj members => "\x7b".toText ++ innerMembers members ++ "\x7d".toText

/-- The items of an array within another value. -/
def innerItems : List Json → Text
  | [] => []
  | [v] => inner v
  | v :: rest => inner v ++ ", ".toText ++ innerItems rest

/-- The members of an object within another value. -/
def innerMembers : List (Text × Json) → Text
  | [] => []
  | [(name, v)] => Text.quoted name ++ ": ".toText ++ inner v
  | (name, v) :: rest => Text.quoted name ++ ": ".toText ++ inner v ++ ", ".toText ++ innerMembers rest

end

/-- The plain text of a value: a text stands for itself. -/
def plain : Json → Text
  | .str t => t
  | v => inner v

end LineScript.Json
