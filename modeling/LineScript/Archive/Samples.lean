import LineScript.Archive.Files

/-! The sample programs that a new archive starts with. -/

namespace LineScript.Archive

/-- The text of a program with the given lines. -/
def program (lines : List String) : Text := lines.flatMap fun line => (line ++ "\n").toText

/-- A sample that prints. -/
def helloWorld : Text :=
  program [
    "import Foundation", "", "print(\"Hello, World!\")",
    "print(\"Welcome to Swift Code Runner!\")", "",
    "let message = \"This is a sample Swift program\"", "print(message)"]

/-- A sample that declares and assigns. -/
def variablesAndConstants : Text :=
  program [
    "import Foundation", "", "// Constants", "let pi = 3.14159",
    "let appName = \"Swift Code Runner\"", "", "// Variables", "var counter = 0",
    "var isRunning = true", "", "print(\"App: \\(appName)\")", "print(\"Pi value: \\(pi)\")",
    "print(\"Counter: \\(counter)\")", "print(\"Is running: \\(isRunning)\")", "",
    "// Modify variables", "counter = counter + 1", "isRunning = false", "",
    "print(\"Updated counter: \\(counter)\")", "print(\"Updated isRunning: \\(isRunning)\")"]

/-- A sample that calls the built-in functions. -/
def functions : Text :=
  program [
    "import Foundation", "", "// Built-in functions", "greet(name: \"Swift Developer\")",
    "add(5, 3)", "factorial(5)"]

/-- The samples by name, in the order in which they are added. -/
def samples : List (Text × Text) :=
  [("Hello World".toText, helloWorld),
    ("Variables and Constants".toText, variablesAndConstants),
    ("Functions".toText, functions)]

/-- Saves each of the given samples whose name is free, and gives the names saved, in order. -/
def seed (clock : Clock) : Archive → List (Text × Text) → Except Refusal (List Text) × Archive
  | a, [] => (.ok [], a)
  | a, (name, content) :: rest =>
    match a.fileExists (.str name) with
    | .error e => (.error e, a)
    | .ok true => seed clock a rest
    | .ok false =>
      match a.saveFile clock (.str name) (.str content) with
      | (.error e, a) => (.error e, a)
      | (.ok _, a) =>
        match seed clock a rest with
        | (.error e, a) => (.error e, a)
        | (.ok names, a) => (.ok (name :: names), a)

/-- Adds the samples that are missing. -/
def createSamples (clock : Clock) (a : Archive) : Except Refusal (List Text) × Archive :=
  seed clock a samples

/-- Sets the archive up and adds the missing samples. -/
def startUp (clock : Clock) (a : Archive) : Except Refusal (List Text) × Archive :=
  createSamples clock a.setUp

end LineScript.Archive
