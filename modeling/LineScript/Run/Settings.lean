import LineScript.Fault
import LineScript.Program

/-! The settings of a run: a JSON object whose members override the limits and ask for a worker. -/

namespace LineScript

/-- The members of a settings object. -/
abbrev Settings := List (Text × Json)

/-- What stands in for a limit that no setting gives. -/
structure Defaults where
  maxSteps : Json
  maxOutput : Json
  maxFactorial : Json

/-- The defaults of a fresh runner. -/
def Defaults.standard : Defaults where
  maxSteps := .int Limits.default.maxSteps
  maxOutput := .int Limits.default.maxOutput
  maxFactorial := .int Limits.default.maxFactorial

namespace Settings

/-- The setting for the number of lines. -/
def maxStepsKey : Text := "max_steps".toText

/-- The setting for the number of characters shown. -/
def maxOutputKey : Text := "max_output_chars".toText

/-- The setting for the argument of a factorial. -/
def maxFactorialKey : Text := "max_factorial_arg".toText

/-- The setting that asks for a worker. -/
def workerKey : Text := "use_subprocess".toText

/-- The setting for the seconds that a worker is waited for. -/
def timeoutKey : Text := "timeout_s".toText

/-- The settings that a value gives. What does not count as true gives none. -/
def ofJson (v : Json) : Except Fault Settings := if v.truthy then v.members "get".toText else .ok []

/-- The setting of that name, or else the given value. -/
def get (s : Settings) (key : Text) (otherwise : Json) : Json := (Json.lookup key s).getD otherwise

/-- The settings of `s` with those of `more` over them. -/
def merge (s more : Settings) : Settings := more.foldl (fun all m => Json.put m.1 m.2 all) s

/-- The integer that a setting stands for. -/
def integer (s : Settings) (key : Text) (otherwise : Json) : Except Fault Int :=
  ((s.get key otherwise).toInteger).mapError .number

/-- The limits that the settings ask for. -/
def limits (d : Defaults) (s : Settings) : Except Fault Limits := do
  let steps ← s.integer maxStepsKey d.maxSteps
  let output ← s.integer maxOutputKey d.maxOutput
  let factorial ← s.integer maxFactorialKey d.maxFactorial
  return ⟨steps, output, factorial⟩

/-- Whether the run is to be left to a worker. -/
def usesWorker (s : Settings) : Bool := (s.get workerKey .null).truthy

/-- How many seconds to wait for a worker. -/
def timeout (s : Settings) : Except Fault Float :=
  ((s.get timeoutKey (.int 2)).toFloat).mapError .number

end Settings

/-- The limits as the members of a settings object. -/
def Limits.toSettings (l : Limits) : Settings :=
  [(Settings.maxStepsKey, .int l.maxSteps), (Settings.maxOutputKey, .int l.maxOutput),
    (Settings.maxFactorialKey, .int l.maxFactorial)]

end LineScript
