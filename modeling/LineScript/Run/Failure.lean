import LineScript.Fault
import LineScript.Program

/-! Errors as a caller sees them: kind, message and, when a line is to blame, its number and text.
    One that came out of a worker's reply may carry any value as line and text. -/

namespace LineScript

/-- An error with its blame; null stands for no line and no text. -/
structure Failure where
  kind : ErrorKind
  message : Text
  line : Json
  lineText : Json

namespace Failure

/-- An error that no line is blamed for. -/
def plain (kind : ErrorKind) (message : Text) : Failure := ⟨kind, message, .null, .null⟩

/-- An error of the execution as a whole. -/
def execution (message : Text) : Failure := plain .execution message

/-- The same error with the blame on a line, whose text goes before the message. -/
def atLine (f : Failure) (line : Int) (text : Text) : Failure where
  kind := f.kind
  message := "Error in line '".toText ++ text ++ "': ".toText ++ f.message
  line := .int line
  lineText := .str text

/-- The error of a run that stopped. -/
def ofStop (s : Program.Stop) : Failure := (plain s.cause.kind s.cause.message).atLine s.line s.text

/-- The error as it is shown: the words for its kind, and the message. -/
def describe (f : Failure) : Text := f.kind.label ++ ": ".toText ++ f.message

/-! ### As JSON -/

/-- The member that holds the code of the kind. -/
def codeKey : Text := "code".toText

/-- The member that holds the message. -/
def messageKey : Text := "message".toText

/-- The member that holds the number of the line. -/
def lineKey : Text := "line".toText

/-- The member that holds what is known of the place. -/
def contextKey : Text := "context".toText

/-- The member of the context that holds the text of the line. -/
def lineTextKey : Text := "line_text".toText

/-- Whether the value is null. -/
def isNull : Json → Bool
  | .null => true
  | _ => false

/-- The error as an object; line and text are left out when they are null. -/
def toJson (f : Failure) : Json :=
  .obj ([(codeKey, .str f.kind.code), (messageKey, .str f.message)] ++
    (if isNull f.line then [] else [(lineKey, f.line)]) ++
    (if isNull f.lineText then [] else [(contextKey, .obj [(lineTextKey, f.lineText)])]))

/-- The kind that a code names; an unknown code is an execution error. -/
def kindOfCode (code : Json) : Except Fault ErrorKind :=
  match code with
  | .str t =>
    .ok ((([ErrorKind.compilation, .execution, .unsupported].find? fun k => k.code == t)).getD .execution)
  | .arr _ => .error (.unhashable code.kindName)
  | .obj _ => .error (.unhashable code.kindName)
  | _ => .ok .execution

end Failure
end LineScript
