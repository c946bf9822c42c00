import LineScript.Archive.Basic

/-! The table of code files, one row to a name. -/

namespace LineScript.Archive

/-! ### Rows -/

/-- The rows with a file saved: a row of that name keeps its creation time. -/
def saveRow (name content now : Text) : List FileRow → List FileRow
  | [] => [⟨name, content, now, now⟩]
  | row :: rest =>
    if row.name = name then { row with content := content, modified := now } :: rest
    else row :: saveRow name content now rest

/-- The row of the file with this name. -/
def findRow? (name : Text) (rows : List FileRow) : Option FileRow := rows.find? fun row => row.name == name

/-- The rows without the one of this name. -/
def deleteRow (name : Text) (rows : List FileRow) : List FileRow := rows.filter fun row => row.name != name

/-- Whether `a` is listed no later than `b`: the later modified first, then by name. -/
def listedBefore (a b : FileRow) : Bool :=
  decide (b.modified < a.modified) || (a.modified == b.modified && !decide (b.name < a.name))

/-! ### Requests -/

/-- The tables, or the refusal that names the missing one. -/
def tablesFor (table : Text) (a : Archive) : Except Refusal Tables :=
  match a.tables with
  | some t => .ok t
  | none => .error (.noTable table)

/-- The name and the content of a file as columns hold them. -/
def fileCells (key : Text) (content : Json) : Except Refusal (Text × Text) := do
  let name ← Cell.ofJson 1 (.str key)
  let content ← Cell.ofJson 2 content
  match name.textual, content.textual with
  | some name, some content => return (name, content)
  | none, _ => .error (.missingValue filesTable "name".toText)
  | _, none => .error (.missingValue filesTable "content".toText)

/-- Saves a file and gives the name it is kept under. The clock is read once the name is accepted. -/
def saveFile (clock : Clock) (a : Archive) (name content : Json) : Except Refusal Text × Archive :=
  match normalizeName name with
  | .error e => (.error e, a)
  | .ok key =>
    let (now, a) := a.tick clock
    match a.tables with
    | none => (.error (.noTable filesTable), a)
    | some t =>
      match fileCells key content with
      | .error e => (.error e, a)
      | .ok (key, content) =>
        (.ok key, { a with tables := some { t with files := saveRow key content now t.files } })

/-- The key for a name and the tables in which it is looked up. -/
def keyed (a : Archive) (table : Text) (name : Json) : Except Refusal (Text × Tables) := do
  let key ← normalizeName name
  let t ← a.tablesFor table
  let _ ← Cell.ofText key
  return (key, t)

/-- All files, the latest modified first. -/
def listFiles (a : Archive) : Except Refusal (List FileRow) := do
  let t ← a.tablesFor filesTable
  return t.files.mergeSort listedBefore

/-- The row of a file, if there is one. -/
def getFile (a : Archive) (name : Json) : Except Refusal (Option FileRow) := do
  let (key, t) ← a.keyed filesTable name
  return findRow? key t.files

/-- Whether there is a file of this name. -/
def fileExists (a : Archive) (name : Json) : Except Refusal Bool := do
  let row ← a.getFile name
  return row.isSome

/-- Deletes a file and tells whether there was one. -/
def deleteFile (a : Archive) (name : Json) : Except Refusal Bool × Archive :=
  match a.keyed filesTable name with
  | .error e => (.error e, a)
  | .ok (key, t) =>
    (.ok (findRow? key t.files).isSome, { a with tables := some { t with files := deleteRow key t.files } })

end LineScript.Archive
