import LineScript.Archive.Runs
import LineScript.Archive.Samples
import LineScript.Run.Delivery
import LineScript.Service.Caps

/-! The requests of the service: running a program and recording the run, and the stored files. -/

namespace LineScript.Service

/-! ### Rows as JSON -/

/-- The member that holds the name of a file. -/
def nameKey : Text := "name".toText

/-- The member that holds the time at which a row was made. -/
def createdKey : Text := "created_at".toText

/-- A file as it is answered. -/
def fileJson (row : Archive.FileRow) : Json :=
  .obj [(nameKey, .str row.name), ("content".toText, .str row.content), (createdKey, .str row.created),
    ("modified_at".toText, .str row.modified)]

/-- A run as it is answered. -/
def runJson (row : Archive.RunRow) : Json :=
  .obj [("run_id".toText, .int row.id), ("file_name".toText, .ofText? row.fileName),
    ("status".toText, .str row.status), ("error_code".toText, .ofText? row.errorCode),
    ("output_chars".toText, row.outputChars.toJson), ("duration_ms".toText, row.duration.toJson),
    (createdKey, .str row.created)]

/-- The answer to a request that could not be met. -/
def errorJson (message : Text) : Json := .obj [("error".toText, .str message)]

/-! ### Runs -/

/-- A request to run a program, which may be that of a file. -/
structure RunRequest where
  code : Text
  settings : Settings
  fileName : Option Text

/-- The answer to a run request. -/
structure RunAnswer where
  output : Json
  errors : Json
  rendered : Json
  warnings : List Text

/-- Why a run is not recorded: the archive turns its row down, or its output is of a kind without a length. -/
inductive Unrecorded where
  | refused (r : Archive.Refusal)
  | unsized (kind : Text)
deriving DecidableEq, Repr

/-- The wording of why a run was not recorded. -/
def Unrecorded.message : Unrecorded → Text
  | .refused r => r.message
  | .unsized kind => "object of type '".toText ++ kind ++ "' has no len()".toText

/-- The length of an output. Only what a worker has made up is no text; of that, what does not count as true has
    the length zero. -/
def outputLength : Json → Except Unrecorded Nat
  | .str t => .ok t.length
  | .arr items => .ok items.length
  | .obj members => .ok members.length
  | v => if v.truthy then .error (.unsized v.kindName) else .ok 0

/-- The answer when the settings cannot be read. -/
def RunAnswer.refused (fault : Fault) : RunAnswer where
  output := .str []
  errors := .obj [(Failure.codeKey, .str "SERVER_ERROR".toText), (Failure.messageKey, .str fault.message)]
  rendered := .str ("Error: ".toText ++ fault.message)
  warnings := []

/-- The answer that a report gives by itself. -/
def RunAnswer.ofReport (r : Report) : RunAnswer where
  output := if r.ok then r.output else .str []
  errors := r.errorJson
  rendered := r.rendered
  warnings := []

/-- The name under which a run is recorded. An empty name counts as none. -/
def recordName : Option Text → Except Archive.Refusal Json
  | none | some [] => .ok .null
  | some name => (Archive.normalizeName (.str name)).map .str

/-- Records a run under the name of its file, if it has one. -/
def record (clock : Archive.Clock) (duration : Int) (a : Archive) (fileName : Option Text) (r : Report) :
    Except Unrecorded Nat × Archive :=
  match recordName fileName, outputLength r.output with
  | .error e, _ => (.error (.refused e), a)
  | _, .error e => (.error e, a)
  | .ok name, .ok length =>
    let (saved, a) := a.saveRun clock name (.str (if r.ok then "ok" else "error").toText)
      (.ofText? (r.error.map fun f => f.kind.code)) (.int length) (.int duration)
    (saved.mapError .refused, a)

/-- Runs a program under capped settings. -/
def attempt (serve : Worker.Request → Except Fault Worker.Exchange) (request : RunRequest) : Except Fault Report := do
  let caps ← cap request.settings
  return Runner.report ⟨[], serve⟩ caps.toSettings request.code

/-- Answers what came of a run and records the run. One that cannot be recorded is answered all the same, with
    a warning. -/
def conclude (clock : Archive.Clock) (duration : Int) (a : Archive) (fileName : Option Text) :
    Except Fault Report → RunAnswer × Archive
  | .error fault => (.refused fault, a)
  | .ok report =>
    match record clock duration a fileName report with
    | (.ok _, a) => (.ofReport report, a)
    | (.error e, a) =>
      ({ RunAnswer.ofReport report with
          warnings := ["Failed to persist run: ".toText ++ e.message] }, a)

/-- Answers a request for a run. -/
def runCode (serve : Worker.Request → Except Fault Worker.Exchange) (clock : Archive.Clock)
    (duration : Int) (a : Archive) (request : RunRequest) : RunAnswer × Archive :=
  conclude clock duration a request.fileName (attempt serve request)

/-! ### Files -/

/-- Whether a refusal is one of the text that was handed in. -/
def blamesText : Archive.Refusal → Bool
  | .emptyName => true
  | .unencodable _ => true
  | _ => false

/-- A refusal of the text is answered; what the archive turns down for another reason is passed on. -/
def answerText (r : Except Archive.Refusal Json) : Except Archive.Refusal Json :=
  match r with
  | .error e => if blamesText e then .ok (errorJson e.message) else .error e
  | r => r

/-- The answer to a request to save a file, and the archive after it. -/
def saveFile (clock : Archive.Clock) (a : Archive) (name content : Text) :
    Except Archive.Refusal Json × Archive :=
  let (r, a) := a.saveFile clock (.str name) (.str content)
  (answerText (r.map fun key => .obj [(nameKey, .str key)]), a)

/-- The answer to a request for all files. -/
def listFiles (a : Archive) : Except Archive.Refusal Json :=
  a.listFiles.map fun rows => .arr (rows.map fileJson)

/-- The answer to a request for a file. -/
def getFile (a : Archive) (name : Text) : Except Archive.Refusal Json :=
  answerText ((a.getFile (.str name)).map fun row =>
    match row with
    | some row => fileJson row
    | none => errorJson "not found".toText)

/-- The answer to a request to delete a file, and the archive after it. -/
def deleteFile (a : Archive) (name : Text) : Except Archive.Refusal Json × Archive :=
  let (r, a) := a.deleteFile (.str name)
  (answerText (r.map fun deleted => .obj [("deleted".toText, .bool deleted)]), a)

/-- The runs that are listed, all of them or those of one file. -/
def listStats (a : Archive) (fileName : Option Text) : Except Archive.Refusal (List Archive.RunRow) :=
  a.listRuns (.ofText? fileName)

end LineScript.Service
