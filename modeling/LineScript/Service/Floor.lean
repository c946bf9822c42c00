import LineScript.Service.Handlers

/-! The service at work on many requests at a time. A run is left to a pool while the service turns to other requests;
    once the run has ended it is answered and recorded. -/

namespace LineScript.Service

/-- A request for a run, with how a worker is reached for it and how many milliseconds it takes in all. -/
structure Visit where
  request : RunRequest
  serve : Worker.Request → Except Fault Worker.Exchange
  duration : Int

/-- The requests for runs by how far they have come, and the archive. -/
structure Floor where
  archive : Archive
  running : List Visit
  ended : List (Visit × Except Fault Report)
  /-- The visits with their answers, the latest first. -/
  answered : List (Visit × RunAnswer)

/-- What can happen next. Visits are named by their places on the floor, so they may overtake each other. -/
inductive Event where
  | arrive (v : Visit)
  | finish (i : Nat)
  | answer (i : Nat)
  | save (name content : Text)
  | delete (name : Text)
  | startUp

namespace Floor

/-- The floor of a service that opens on an archive. -/
def opened (a : Archive) : Floor := ⟨a, [], [], []⟩

/-- The attempt of a running visit ends. -/
def finish (f : Floor) (i : Nat) : Floor :=
  match f.running[i]? with
  | none => f
  | some v =>
    { f with running := f.running.eraseIdx i, ended := (v, attempt v.serve v.request) :: f.ended }

/-- A visit whose attempt has ended is recorded and answered. -/
def answer (clock : Archive.Clock) (f : Floor) (i : Nat) : Floor :=
  match f.ended[i]? with
  | none => f
  | some (v, outcome) =>
    let (answer, a) := conclude clock v.duration f.archive v.request.fileName outcome
    { f with archive := a, ended := f.ended.eraseIdx i, answered := (v, answer) :: f.answered }

/-- What an event does to the floor. -/
def step (clock : Archive.Clock) (f : Floor) : Event → Floor
  | .arrive v => { f with running := f.running ++ [v] }
  | .finish i => f.finish i
  | .answer i => f.answer clock i
  | .save name content => { f with archive := (saveFile clock f.archive name content).2 }
  | .delete name => { f with archive := (deleteFile f.archive name).2 }
  | .startUp => { f with archive := (f.archive.startUp clock).2 }

/-- The floor after events, one behind the other. -/
def run (clock : Archive.Clock) (f : Floor) (events : List Event) : Floor := events.foldl (step clock) f

end Floor
end LineScript.Service
