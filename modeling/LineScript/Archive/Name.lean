import LineScript.Json.Basic
import LineScript.Text.Blank
import LineScript.Text.Search
import LineScript.Text.Utf8

/-! Names of stored files, and what can go wrong with the archive. -/

namespace LineScript.Archive

/-- Why a request to the archive is turned down. -/
inductive Refusal where
  | emptyName
  | notText (kind : Text)
  | noTable (table : Text)
  | missingValue (table column : Text)
  | integerTooLarge
  | unencodable (fault : Text.EncodeFault)
  | unsupported (position : Nat) (kind : Text)
deriving DecidableEq, Repr

/-- The wording of a refusal. -/
def Refusal.message : Refusal → Text
  | .emptyName => "file name must not be empty".toText
  | .notText kind => "'".toText ++ kind ++ "' object has no attribute 'strip'".toText
  | .noTable table => "no such table: ".toText ++ table
  | .missingValue table column =>
    "NOT NULL constraint failed: ".toText ++ table ++ ".".toText ++ column
  | .integerTooLarge => "Python int too large to convert to SQLite INTEGER".toText
  | .unencodable fault => fault.message
  | .unsupported position kind =>
    "Error binding parameter ".toText ++ Text.ofNat position ++ ": type '".toText ++ kind ++
      "' is not supported".toText

/-- The ending of a source file, which is no part of its name. -/
def sourceEnding : Text := ".swift".toText

/-- The name without the blanks around it and without one source ending. -/
def cleanName (name : Text) : Text :=
  let t := Text.trim name
  match Text.dropEnding? sourceEnding t with
  | some stem => Text.trim stem
  | none => t

/-- The name under which a file is kept. Whatever counts as false is an empty name. -/
def normalizeName (name : Json) : Except Refusal Text :=
  if !name.truthy then .error .emptyName
  else match name with
    | .str t => if (cleanName t).isEmpty then .error .emptyName else .ok (cleanName t)
    | v => .error (.notText v.kindName)

end LineScript.Archive
