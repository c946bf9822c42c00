import LineScript.Text.Lines
import LineScript.Text.Utf8

/-! The program that a command is given: a file, or the input for a dash. Line ends are unified while
    it is read. -/

namespace LineScript.CommandLine

/-- What is found under a path. On the way to it a file may stand where a directory is needed. -/
inductive Found where
  | nothing
  | blocked
  | tooLong
  | directory
  | bytes (content : List Nat)

/-- Why a file cannot be read. -/
inductive ReadFault where
  | noFile (path : Text)
  | notDirectory (path : Text)
  | nameTooLong (path : Text)
  | isDirectory (path : Text)
  | nullInPath
  | unencodable (fault : Text.EncodeFault)
  | undecodable (fault : Text.Utf8Fault)
deriving DecidableEq, Repr

/-- The wording of a fault in reading. -/
def ReadFault.message : ReadFault → Text
  | .noFile path => "[Errno 2] No such file or directory: ".toText ++ Text.quoted path
  | .notDirectory path => "[Errno 20] Not a directory: ".toText ++ Text.quoted path
  | .nameTooLong path => "[Errno 36] File name too long: ".toText ++ Text.quoted path
  | .isDirectory path => "[Errno 21] Is a directory: ".toText ++ Text.quoted path
  | .nullInPath => "embedded null byte".toText
  | .unencodable fault => fault.message
  | .undecodable fault =>
    "'utf-8' codec can't decode ".toText ++
      (if fault.length = 1 then
        "byte 0x".toText ++ Text.hex 2 fault.byte ++ " in position ".toText ++ Text.ofNat fault.position
      else
        "bytes in position ".toText ++ Text.ofNat fault.position ++ "-".toText ++
          Text.ofNat (fault.position + fault.length - 1)) ++
      ": ".toText ++ fault.complaint.message

/-! ### Paths -/

/-- A path as where it starts, which is empty for one that starts here, and the names on the way. -/
structure Path where
  root : Text
  names : List Text
deriving DecidableEq, Repr

namespace Path

/-- The path without empty names and names that mean the same directory. -/
def ofText (t : Text) : Path where
  root := match t with
    | .char '/' :: .char '/' :: .char '/' :: _ => "/".toText
    | .char '/' :: .char '/' :: _ => "//".toText
    | .char '/' :: _ => "/".toText
    | _ => []
  names := (t.splitOn (.char '/')).filter fun name => !name.isEmpty && name != ".".toText

/-- The path as it is written; the empty one is the directory it starts from. -/
def text (p : Path) : Text :=
  let joined := p.root ++ Text.join "/".toText p.names
  if joined.isEmpty then ".".toText else joined

end Path

/-! ### Reading -/

/-- The text of a file with its line ends unified. -/
def readFile (look : Path → Found) (name : Text) : Except ReadFault Text :=
  let path := Path.ofText name
  match Text.encodeFault? Text.isEscapedByte path.text with
  | some fault => .error (.unencodable fault)
  | none =>
    if path.text.contains (.char '\x00') then .error .nullInPath
    else match look path with
      | .nothing => .error (.noFile path.text)
      | .blocked => .error (.notDirectory path.text)
      | .tooLong => .error (.nameTooLong path.text)
      | .directory => .error (.isDirectory path.text)
      | .bytes content =>
        match Text.ofUtf8 content with
        | .error fault => .error (.undecodable fault)
        | .ok t => .ok (Text.unifyBreaks t)

/-- The program that a command names: its input for a dash, or else a file. -/
def source (look : Path → Found) (input file : Text) : Except ReadFault Text :=
  if file = "-".toText then .ok (Text.unifyBreaks input) else readFile look file

end LineScript.CommandLine
