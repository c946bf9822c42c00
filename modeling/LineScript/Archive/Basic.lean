import LineScript.Archive.Cell

/-! The archive: a table of code files and a log of runs, which exist once the archive has been set
    up. A clock is read for every row that is written; its readings are numbered from one. -/

namespace LineScript.Archive

/-- A row of the table of files. -/
structure FileRow where
  name : Text
  content : Text
  created : Text
  modified : Text
deriving DecidableEq

/-- A row of the table of runs. -/
structure RunRow where
  id : Nat
  fileName : Option Text
  status : Text
  errorCode : Option Text
  outputChars : Cell
  duration : Cell
  created : Text
deriving DecidableEq

/-- The two tables; runs stand latest first. -/
structure Tables where
  files : List FileRow
  runs : List RunRow
deriving DecidableEq

/-- The name of the table of files. -/
def filesTable : Text := "CodeFiles".toText

/-- The name of the table of runs. -/
def runsTable : Text := "Runs".toText

end Archive

/-- The archive with the number of clock readings so far. Before it is set up it has no tables. -/
structure Archive where
  tables : Option Archive.Tables
  readings : Nat
deriving DecidableEq

namespace Archive

/-- What the clock shows at its first, second, … reading. -/
abbrev Clock := Nat → Text

/-- An archive as it is before its tables are made. -/
def fresh : Archive := ⟨none, 0⟩

/-- The archive with tables, empty ones if it had none. -/
def setUp (a : Archive) : Archive := { a with tables := some (a.tables.getD ⟨[], []⟩) }

/-- The next reading of the clock, and the archive after it. -/
def tick (clock : Clock) (a : Archive) : Text × Archive :=
  (clock (a.readings + 1), { a with readings := a.readings + 1 })

end Archive
end LineScript
