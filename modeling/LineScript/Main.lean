import LineScript.CommandLine.Basic

/-! The program itself: it runs the command with the files and the input of its process. -/

namespace LineScript

/-- What the file system holds under a path. -/
def findFile (path : CommandLine.Path) : IO CommandLine.Found := do
  try
    let content ← IO.FS.readBinFile (Text.string path.text)
    return .bytes (content.toList.map UInt8.toNat)
  catch
    | .noFileOrDirectory .. => return .nothing
    | .inappropriateType (some _) .. => return .blocked
    | .invalidArgument .. => return .tooLong
    | _ => return .directory

/-- The file that a command line names. -/
def fileOf (arguments : List Text) : Text :=
  match CommandLine.Options.ofArguments arguments with
  | .ok (file, _) => file
  | .error _ => []

end LineScript

open LineScript in

/-- The command, with its source read from a file or from the input. -/
def main (arguments : List String) : IO UInt32 := do
  let arguments := arguments.map String.toText
  let file := fileOf arguments
  let found ← findFile (.ofText file)
  let input ← if file = "-".toText then (← IO.getStdin).readToEnd else pure ""
  match CommandLine.command Worker.serve (fun _ => found) input.toText arguments with
  | .ok outcome =>
    (← IO.getStdout).putStr (Text.string outcome.stdout)
    (← IO.getStderr).putStr (Text.string outcome.stderr)
    return outcome.exit.toUInt32
  | .error fault =>
    (← IO.getStderr).putStrLn (Text.string fault.message)
    return 1
