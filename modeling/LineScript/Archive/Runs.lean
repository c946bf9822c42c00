import LineScript.Archive.Files

/-! The log of runs. Rows are numbered from one without gaps and never change. -/

namespace LineScript.Archive

/-- The number of the next run. -/
def nextId (runs : List RunRow) : Nat :=
  match runs with
  | [] => 1
  | row :: _ => row.id + 1

/-- The row of a run, its values taken in the order of the columns. -/
def runRow (id : Nat) (now : Text) (fileName status errorCode outputChars duration : Json) :
    Except Refusal RunRow := do
  let fileName ← Cell.ofJson 1 fileName
  let status ← Cell.ofJson 2 status
  let errorCode ← Cell.ofJson 3 errorCode
  let outputChars ← Cell.ofJson 4 outputChars
  let duration ← Cell.ofJson 5 duration
  match status.textual with
  | none => .error (.missingValue runsTable "status".toText)
  | some status =>
    return ⟨id, fileName.textual, status, errorCode.textual, outputChars.integral, duration.integral, now⟩

/-- Records a run and gives its number. The clock is read in any case. -/
def saveRun (clock : Clock) (a : Archive) (fileName status errorCode outputChars duration : Json) :
    Except Refusal Nat × Archive :=
  let (now, a) := a.tick clock
  match a.tables with
  | none => (.error (.noTable runsTable), a)
  | some t =>
    match runRow (nextId t.runs) now fileName status errorCode outputChars duration with
    | .error e => (.error e, a)
    | .ok row => (.ok row.id, { a with tables := some { t with runs := row :: t.runs } })

/-- The recorded runs, the latest first: all of them, or those of one file when a name is given. -/
def listRuns (a : Archive) (fileName : Json) : Except Refusal (List RunRow) :=
  if fileName.truthy then do
    let (key, t) ← a.keyed runsTable fileName
    return t.runs.filter fun row => row.fileName == some key
  else do
    let t ← a.tablesFor runsTable
    return t.runs

end LineScript.Archive
