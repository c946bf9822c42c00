import LineScript.CommandLine.Options
import LineScript.CommandLine.Source
import LineScript.Run.Delivery

/-! The command: it reads a program from a file or from its input, runs it, and writes the output or
    the error. -/

namespace LineScript.CommandLine

/-- The settings that options make. -/
def Options.settings (o : Options) : Settings :=
  (o.maxSteps.map fun v => (Settings.maxStepsKey, v)).toList ++
    (o.maxOutput.map fun v => (Settings.maxOutputKey, v)).toList ++
    (if o.worker then [(Settings.workerKey, .bool true), (Settings.timeoutKey, o.timeout)] else [])

/-- What a command leaves behind. -/
structure Outcome where
  exit : Nat
  stdout : Text
  stderr : Text
deriving DecidableEq

/-- The text with a line end, unless it has one. -/
def endLine (t : Text) : Text := if t.getLast? = some (.char '\n') then t else t ++ "\n".toText

/-- The outcome of a run. -/
def Outcome.ofReport (r : Report) : Outcome :=
  if r.ok then ⟨0, endLine (if r.output.truthy then r.output.plain else []), []⟩
  else ⟨1, [], r.rendered.plain ++ "\n".toText⟩

/-- The line that a misuse of the command is answered with. -/
def usage : Text :=
  ("usage: swiftlet [-h] [--max-steps MAX_STEPS] [--max-output-chars MAX_OUTPUT_CHARS] " ++
    "[--subprocess] [--timeout TIMEOUT] file\n").toText

/-- What is said of a command line that is not understood. -/
def complaint (m : Misuse) : Text := usage ++ "swiftlet: error: ".toText ++ m.message ++ "\n".toText

/-- The whole command. -/
def command (serve : Worker.Request → Except Fault Worker.Exchange) (look : Path → Found)
    (input : Text) (arguments : List Text) : Except ReadFault Outcome :=
  match Options.ofArguments arguments with
  | .error .help => .ok ⟨0, usage, []⟩
  | .error (.misuse m) => .ok ⟨2, [], complaint m⟩
  | .ok (file, o) => do
    let program ← source look input file
    return .ofReport (Runner.report ⟨o.settings, serve⟩ [] program)

end LineScript.CommandLine
