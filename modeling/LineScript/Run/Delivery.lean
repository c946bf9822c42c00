import LineScript.Run.Runner

/-! Runs off the caller's thread. A submitted job runs on a pool; when it is finished its delivery is
    posted to the loop, and the loop then calls back and resolves the future. A cancelled future is
    not resolved, and a callback that raises is only complained about. -/

namespace LineScript

/-- A front to programs, with settings that hold for every run. -/
structure Runner where
  settings : Settings
  serve : Worker.Request → Except Fault Worker.Exchange

namespace Runner

/-- The report of a run with further settings over those of the runner. What keeps a run from giving a
    result is an error of the execution. -/
def report (r : Runner) (more : Settings) (source : Text) : Report :=
  match run .standard r.serve (r.settings.merge more) source with
  | .ok report => report
  | .error fault => .failure (.execution fault.message)

/-- The number of workers when none is asked for; `environment` is what the environment says. It can
    hold neither a null character nor a surrogate that stands for no byte. -/
def defaultWorkers (environment : Option Text) : Except Fault Int :=
  match environment with
  | none => .ok 4
  | some t =>
    match Text.encodeFault? Text.isEscapedByte t with
    | some fault => .error (.unencodable fault)
    | none =>
      if t.contains (.char '\x00') then .error .nullByte
      else (Json.integerOfText t).mapError .number

/-- Whether a value is above zero, if it can be compared with it. -/
def isPositive (v : Json) : Except Fault Bool :=
  match v with
  | .int n => .ok (decide (0 < n))
  | .float x => .ok !(x <= 0)
  | .bool b => .ok b
  | v => .error (.notOrdered v.kindName)

/-- The size of the pool that is asked for. What does not count as true asks for the default. -/
def poolSize (requested : Json) (environment : Option Text) : Except Fault Json := do
  let size ← if requested.truthy then .ok requested else (defaultWorkers environment).map .int
  if ← isPositive size then return size else .error .tooFewWorkers

end Runner

namespace Delivery

/-- What is called when a run is complete. -/
inductive Callback where
  | none
  | returns
  | raises (message : Text)
deriving DecidableEq

/-- What is submitted: a program with its settings, and whom to call back. -/
structure Job where
  source : Text
  settings : Settings
  callback : Callback

/-- How far a job is: on the pool, finished with its delivery posted, in the middle of the delivery with
    the callback called, or delivered. -/
inductive Phase where
  | running
  | posted (r : Report)
  | called (r : Report)
  | delivered

/-- What the submitter holds of a job. -/
inductive Future where
  | pending
  | resolved (r : Report)
  | cancelled

/-- A submitted job: its phase, its future, and the reports its callback was called with. -/
structure Ticket where
  job : Job
  phase : Phase
  future : Future
  calls : List Report

/-- All submitted jobs in order, and what raising callbacks said. -/
structure Desk where
  tickets : List Ticket
  complaints : List Text

/-- The desk before the first job. -/
def Desk.empty : Desk := ⟨[], []⟩

/-- A delivery has two steps, the call and the settlement of the future, since a callback can do anything
    that a caller can. -/
inductive Event where
  | submit (job : Job)
  | finish (ticket : Nat)
  | call (ticket : Nat)
  | settle (ticket : Nat)
  | cancel (ticket : Nat)

/-- The ticket of a job that has just begun to run. -/
def Ticket.ofJob (job : Job) : Ticket := ⟨job, .running, .pending, []⟩

/-- The future of a delivered job: a result resolves it only while it is pending. -/
def Future.settle (r : Report) : Future → Future
  | .pending => .resolved r
  | f => f

/-- A pending future that is cancelled. -/
def Future.cancel : Future → Future
  | .pending => .cancelled
  | f => f

/-- The run ends, and its delivery is posted. -/
def Ticket.finish (runner : Runner) (t : Ticket) : Ticket :=
  match t.phase with
  | .running => { t with phase := .posted (runner.report t.job.settings t.job.source) }
  | _ => t

/-- A posted delivery calls back, if there is somebody to call. -/
def Ticket.call (t : Ticket) : Ticket :=
  match t.phase with
  | .posted r =>
    { t with phase := .called r, calls := if t.job.callback = .none then t.calls else t.calls ++ [r] }
  | _ => t

/-- The end of a delivery. It takes place also when the callback has raised. -/
def Ticket.settle (t : Ticket) : Ticket :=
  match t.phase with
  | .called r => { t with phase := .delivered, future := t.future.settle r }
  | _ => t

/-- The submitter gives the future up. -/
def Ticket.cancel (t : Ticket) : Ticket := { t with future := t.future.cancel }

/-- What is said at the end of a delivery when the callback has raised. -/
def Ticket.complaint? (t : Ticket) : Option Text :=
  match t.phase, t.job.callback with
  | .called _, .raises message => some message
  | _, _ => none

/-- One step of the pool, the loop or the caller. A step that does not fit the phase changes nothing. -/
def Desk.step (runner : Runner) (d : Desk) : Event → Desk
  | .submit job => { d with tickets := d.tickets ++ [.ofJob job] }
  | .finish i => { d with tickets := d.tickets.modify i (Ticket.finish runner) }
  | .call i => { d with tickets := d.tickets.modify i Ticket.call }
  | .settle i =>
    { tickets := d.tickets.modify i Ticket.settle
      complaints := d.complaints ++ ((d.tickets[i]?).bind Ticket.complaint?).toList }
  | .cancel i => { d with tickets := d.tickets.modify i Ticket.cancel }

/-- The desk after events, one behind the other. -/
def Desk.run (runner : Runner) (d : Desk) (events : List Event) : Desk := events.foldl (Desk.step runner) d

/-- The next job submitted, run and delivered before anything else happens. -/
def Desk.complete (runner : Runner) (d : Desk) (job : Job) : Desk :=
  let i := d.tickets.length
  d.run runner [.submit job, .finish i, .call i, .settle i]

/-- The next job submitted and its future cancelled at once; it still runs and is delivered. -/
def Desk.abandon (runner : Runner) (d : Desk) (job : Job) : Desk :=
  let i := d.tickets.length
  d.run runner [.submit job, .cancel i, .finish i, .call i, .settle i]

/-- All jobs submitted together, then run and delivered. -/
def Desk.completeAll (runner : Runner) (d : Desk) (jobs : List Job) : Desk :=
  let first := d.tickets.length
  let places := (List.range jobs.length).map (first + ·)
  d.run runner (jobs.map .submit ++ places.map .finish ++ places.flatMap fun i => [.call i, .settle i])

/-- The report that the future of a ticket holds. -/
def Ticket.result? (t : Ticket) : Option Report :=
  match t.future with
  | .resolved r => some r
  | _ => none

end Delivery
end LineScript
