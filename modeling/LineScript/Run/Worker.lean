import LineScript.Json.Reader
import LineScript.Run.Memory
import LineScript.Run.Report
import LineScript.Run.Settings

/-! Runs in a worker. The worker is a process of its own, with a stack and a memory of its own, that is handed
    one JSON object, runs the program in it and writes one JSON object back. -/

namespace LineScript.Worker

/-! ### Inside the worker -/

/-- The member of a payload that holds the program. -/
def codeKey : Text := "code".toText

/-- The member of a payload that holds the limits. -/
def limitsKey : Text := "limits".toText

/-- The member of a reply that holds the output. -/
def outputKey : Text := "output".toText

/-- The member of a reply that holds the error. -/
def errorKey : Text := "error".toText

/-- The answer of a worker. -/
def reply (output error : Json) : Json := .obj [(outputKey, output), (errorKey, error)]

/-- The reply to a payload. A worker never hands its run on to another one. -/
def answer [Host] (payload : Json) : Except Fault Json := do
  let members ← payload.members "get".toText
  let given := (Json.lookup limitsKey members).getD .null
  let settings ← if given.truthy then given.members "items".toText else .ok []
  let limits ← Settings.limits .standard (settings.filter fun m => m.1 ≠ Settings.workerKey)
  let code := ((Json.lookup codeKey members).getD (.str [])).plain
  let report := Report.ofProgram limits code
  return reply report.output report.errorJson

/-- How a worker ends that got this far: its exit code and what it wrote. -/
structure Ending where
  exit : Int
  written : Json

/-- The whole work of a worker on its input. -/
def main [Host] (input : Text) : Except Fault Ending :=
  match Json.read input with
  | .ok payload => do
    let r ← answer payload
    if r.writable then return ⟨0, r⟩ else .error (.number .unwritable)
  | .error .tooDeep => .error .tooDeep
  | .error fault =>
    .ok ⟨1, reply .null (Failure.execution ("bad_payload: ".toText ++ fault.message)).toJson⟩

/-! ### Outside the worker -/

/-- What a worker is started with; without a timeout it is waited for as long as it takes. -/
structure Request where
  code : Text
  timeout : Option Float
  limits : Json

/-- What came of starting a worker: it ended, with a code and its two outputs, or it did not start. A
    worker that ran out of time has the code −1. -/
inductive Exchange where
  | ended (code : Int) (out err : Text)
  | notStarted (reason : Text)
deriving DecidableEq

/-- What comes of a worker that did not answer in time. -/
def Exchange.timedOut : Exchange := .ended (-1) [] "TIMEOUT".toText

/-- The object that a worker is handed. -/
def Request.payload (r : Request) : Json := .obj [(codeKey, .str r.code), (limitsKey, r.limits)]

/-- What a worker is given to read. -/
def Request.input (r : Request) : Except Fault Text :=
  if r.payload.writable then .ok r.payload.write else .error (.number .unwritable)

/-- The seconds within which no worker answers. -/
def startTime : Float := 0.01

/-- The time a worker is waited for, when it can be waited for at all: none if it is over before the
    worker can answer. The wait is counted in milliseconds, of which there is a largest number. -/
def wait (timeout : Float) : Except Fault Bool :=
  match Decimal.exact (timeout * 1000) with
  | .undefined => .error (.number .undefined)
  | .infinite true => .ok false
  | .infinite false => .error (.number .infinite)
  | .finite _ _ _ =>
    let milliseconds := (Decimal.truncate? (timeout * 1000)).getD 0
    if 9223372036854 < milliseconds then .error .waitBeyondClock
    else if 2147483647 < milliseconds then .error .waitTooLong
    else .ok (decide (startTime ≤ timeout))

/-- Whether a worker that may take so long gets to answer. -/
def answersWithin : Option Float → Except Fault Bool
  | none => .ok true
  | some timeout => wait timeout

/-- The timeout that a value sets; null sets none. -/
def timeoutOf (v : Json) : Except Fault (Option Float) :=
  match v with
  | .null => .ok none
  | .str _ | .arr _ | .obj _ => .error (.noSum v.kindName)
  | v => (v.toFloat.mapError .number).map some

/-- What comes of a request when a worker can be started, which runs in its own process. A worker that fails on
    its payload ends with the code 1 and writes nothing. -/
def serve (r : Request) : Except Fault Exchange := do
  let input ← r.input
  if ← answersWithin r.timeout then
    match @main host input with
    | .ok ending => return .ended ending.exit (ending.written.write ++ "\n".toText) []
    | .error _ => return .ended 1 [] []
  else return .timedOut

/-! ### Reading the reply -/

/-- The report that a worker's reply stands for. -/
def ofReply (payload : Json) : Except Fault Report := do
  let members ← payload.members "get".toText
  let error := (Json.lookup errorKey members).getD .null
  if error.truthy then
    let f ← Failure.ofJson error
    return .failure f
  else
    let output := (Json.lookup outputKey members).getD .null
    return .success (if output.truthy then output else .str Program.silentOutput)

/-- The report of a run that was left to a worker. -/
def ofExchange : Exchange → Except Fault Report
  | .notStarted reason =>
    .ok (.failure (.execution ("Subprocess error: ".toText ++ reason)))
  | .ended code out err =>
    if code = -1 then .ok (.failure (.execution "Time limit exceeded".toText))
    else if code ≠ 0 then
      let said := Text.trim err
      let why := if said.isEmpty then Text.ofInt code else said
      .ok (.failure (.execution ("Subprocess failed: ".toText ++ why)))
    else match Json.read out with
      | .ok payload => ofReply payload
      | .error .tooDeep => .error .tooDeep
      | .error _ => .ok (.failure (.execution "Subprocess returned malformed output".toText))

end LineScript.Worker
