import LineScript.Run.Runner

/-! The ceilings of the service. A client may ask for lower limits and a shorter wait, never for more. -/

namespace LineScript.Service

/-- What a run is given after capping: its limits and, if a worker is to run it, the wait in seconds. -/
structure Caps where
  limits : Limits
  wait : Option Float

/-- The longest wait for a worker, in seconds. -/
def maxWait : Float := 5

/-- The lesser of two floats; what does not compare stays as it was asked for. -/
def lesser (asked ceiling : Float) : Float := if ceiling < asked then ceiling else asked

/-- The capped settings. -/
def cap (s : Settings) : Except Fault Caps := do
  let asked ← s.limits .standard
  let limits : Limits :=
    ⟨min asked.maxSteps Limits.default.maxSteps, min asked.maxOutput Limits.default.maxOutput,
      min asked.maxFactorial Limits.default.maxFactorial⟩
  if s.usesWorker then
    let asked ← s.timeout
    return ⟨limits, some (lesser asked maxWait)⟩
  else return ⟨limits, none⟩

/-- The settings that ask for just what was granted. -/
def Caps.toSettings (c : Caps) : Settings :=
  c.limits.toSettings ++
    match c.wait with
    | some seconds => [(Settings.workerKey, .bool true), (Settings.timeoutKey, .float seconds)]
    | none => []

end LineScript.Service
