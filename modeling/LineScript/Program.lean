import LineScript.Statement
import LineScript.Text.Lines

/-! The run of a program: its lines in order over one store, within limits. The first failing line
    ends it, and nothing of what was shown before remains. -/

namespace LineScript

/-- The limits of a run. -/
structure Limits where
  maxSteps : Int
  maxOutput : Int
  maxFactorial : Int
deriving DecidableEq, Repr

/-- The limits that hold unless others are asked for. -/
def Limits.default : Limits := ⟨10000, 5000, 20⟩

namespace Program

/-- Lines that are passed over: blank ones, comments and imports. -/
def isSkipped (line : Text) : Bool :=
  line.isEmpty || "//".toText.isPrefixOf line || "import".toText.isPrefixOf line

/-- A run under way: its variables, the lines executed, the characters shown with a line end for
    each text, and the texts shown, the latest first. -/
structure State where
  store : Store
  steps : Nat
  chars : Nat
  shown : List Text
deriving Inhabited

/-- The state before the first line. -/
def State.initial : State := ⟨.empty, 0, 0, []⟩

/-- The state after a text has been shown; an empty one leaves no trace. -/
def State.show (limits : Limits) (s : State) (t : Text) : Except Cause State :=
  if t.isEmpty then .ok s
  else
    let chars := s.chars + t.length + 1
    if limits.maxOutput < chars then .error (.naming .outputLimit limits.maxOutput)
    else .ok { s with chars := chars, shown := t :: s.shown }

/-- One line, trimmed and not skipped. The memory may give out at it before it has an effect. -/
def State.step [Host] (limits : Limits) (s : State) (line : Text) : Except Cause State :=
  if limits.maxSteps < s.steps + 1 then .error (.naming .stepLimit limits.maxSteps)
  else if Host.givesOut s.steps s.store line then .error .outOfMemory
  else do
    let effect ← Statement.run limits.maxFactorial s.store line
    State.show limits { s with store := effect.store s.store, steps := s.steps + 1 } effect.shown

/-- Why and where a run stopped. -/
structure Stop where
  cause : Cause
  line : Nat
  text : Text
deriving DecidableEq

/-- One physical line with its number. -/
def State.next [Host] (limits : Limits) (number : Nat) (s : State) (raw : Text) : Except Stop State :=
  let line := Text.trim raw
  if isSkipped line then .ok s
  else match s.step limits line with
    | .ok t => .ok t
    | .error cause => .error ⟨cause, number, line⟩

/-- The physical lines of a program, the first of them with the given number. -/
def runLines [Host] (limits : Limits) : Nat → State → List Text → Except Stop State
  | _, s, [] => .ok s
  | number, s, raw :: rest => do
    let t ← s.next limits number raw
    runLines limits (number + 1) t rest

/-- The texts that a program shows. -/
def execute [Host] (limits : Limits) (code : Text) : Except Stop (List Text) := do
  let s ← runLines limits 1 .initial (Text.lines code)
  return s.shown.reverse

/-- The output of a program that shows nothing. -/
def silentOutput : Text := "Code executed successfully (no output)".toText

/-- The output of a program: the texts it shows, each with a line end. -/
def output (shown : List Text) : Text :=
  if shown.isEmpty then silentOutput else shown.flatMap (· ++ "\n".toText)

end Program
end LineScript
