import LineScript.Run.Worker

/-! Running a program under settings, here or in a worker. -/

namespace LineScript

/-- The request that settings make of a worker, when they ask for one and all their numbers read. -/
def Worker.Request.ofSettings (limits : Limits) (settings : Settings) (code : Text) :
    Except Fault Worker.Request := do
  let timeout ← settings.timeout
  return ⟨code, some timeout, .obj limits.toSettings⟩

/-- The report of a run. The limits are read first; `serve` is how workers are reached. -/
def run [Host] (d : Defaults) (serve : Worker.Request → Except Fault Worker.Exchange) (settings : Settings)
    (code : Text) : Except Fault Report := do
  let limits ← settings.limits d
  if settings.usesWorker then
    let request ← Worker.Request.ofSettings limits settings code
    let exchange ← serve request
    Worker.ofExchange exchange
  else return .ofProgram limits code

end LineScript
