import LineScript.Json.Printer
import LineScript.Run.Failure

/-! The report of a run: its output or the error that ended it. -/

namespace LineScript

/-- The error that an object describes. -/
def Failure.ofJson (v : Json) : Except Fault Failure := do
  let members ← v.members "get".toText
  let kind ← kindOfCode ((Json.lookup codeKey members).getD (.str []))
  let context := (Json.lookup contextKey members).getD .null
  let inner ← if context.truthy then context.members "get".toText else .ok []
  return {
    kind := kind
    message := ((Json.lookup messageKey members).getD (.str [])).plain
    line := (Json.lookup lineKey members).getD .null
    lineText := (Json.lookup lineTextKey inner).getD .null }

/-- What comes of a run: an output, or an error and no output. -/
structure Report where
  output : Json
  error : Option Failure

namespace Report

/-- The report of a run that ended well. -/
def success (output : Json) : Report := ⟨output, none⟩

/-- The report of a run that an error ended. -/
def failure (f : Failure) : Report := ⟨.null, some f⟩

/-- Whether the run ended well. -/
def ok (r : Report) : Bool := r.error.isNone

/-- The report of a run within the limits, here and now. -/
def ofProgram [Host] (limits : Limits) (code : Text) : Report :=
  match Program.execute limits code with
  | .ok shown => success (.str (Program.output shown))
  | .error stop => failure (.ofStop stop)

/-- What is shown to a reader: the output, or the error behind the word that it is one. -/
def rendered (r : Report) : Json :=
  match r.error with
  | some f => .str ("Error: ".toText ++ f.describe)
  | none => if r.output.truthy then r.output else .str []

/-- The value of the error member of an answer. -/
def errorJson (r : Report) : Json := (r.error.map Failure.toJson).getD .null

/-- The report as an object, with an empty output beside an error. -/
def members (r : Report) : List (Text × Json) :=
  [("output".toText, if r.ok then r.output else .str []), ("errors".toText, r.errorJson)]

end Report
end LineScript
