import LineScript.Text.Basic

/-! The operations of the archive by name, with what each has to be given. -/

namespace LineScript.Archive

/-- An operation with its parameters; the last of them, `optional` in number, may be left out. -/
structure Signature where
  name : Text
  parameters : List Text
  optional : Nat := 0
deriving DecidableEq

/-- The operations on an archive, with their parameters. -/
def signatures : List Signature :=
  let signature (name : String) (parameters : List String) : Signature :=
    ⟨name.toText, parameters.map String.toText, 0⟩
  [signature "init_db" [],
    signature "normalize_name" ["name"],
    signature "save_code_file" ["name", "content"],
    signature "load_code_files" [],
    signature "get_code_file" ["name"],
    signature "code_file_exists" ["name"],
    signature "delete_code_file" ["name"],
    signature "create_sample_files" [],
    signature "save_run" ["file_name", "status", "error_code", "output_chars", "duration_ms"],
    { signature "list_runs" ["file_name"] with optional := 1 }]

/-- Why an operation cannot take its arguments: some are missing, or there are too many. -/
inductive Misuse where
  | missing (operation : Text) (parameters : List Text)
  | tooMany (operation : Signature) (given : Nat)
deriving DecidableEq

/-- Whether so many arguments fit, and if not, why. -/
def Signature.misuse? (s : Signature) (given : Nat) : Option Misuse :=
  let needed := s.parameters.length - s.optional
  if given < needed then some (.missing s.name ((s.parameters.take needed).drop given))
  else if s.parameters.length < given then some (.tooMany s given)
  else none

/-- What keeps an operation from taking so many arguments. -/
def misuse? (operation : Text) (given : Nat) : Option Misuse :=
  (signatures.find? fun s => s.name == operation).bind (·.misuse? given)

/-! ### Wording -/

/-- Texts in a row, the last one behind an `and`. -/
def listed : List Text → Text
  | [] => []
  | [t] => t
  | [t, u] => t ++ " and ".toText ++ u
  | ts => Text.join ", ".toText ts.dropLast ++ ", and ".toText ++ (ts.getLast?.getD [])

/-- A noun with its ending for a number of things. -/
def counted (n : Nat) (noun : String) : Text := (if n = 1 then noun else noun ++ "s").toText

/-- The wording of a misuse. -/
def Misuse.message : Misuse → Text
  | .missing operation ps =>
    operation ++ "() missing ".toText ++ Text.ofNat ps.length ++ " required positional ".toText ++
      counted ps.length "argument" ++ ": ".toText ++ listed (ps.map fun p => "'".toText ++ p ++ "'".toText)
  | .tooMany s given =>
    let most := s.parameters.length
    let taken :=
      if s.optional = 0 then Text.ofNat most ++ " positional ".toText ++ counted most "argument"
      else "from ".toText ++ Text.ofNat (most - s.optional) ++ " to ".toText ++ Text.ofNat most ++
        " positional arguments".toText
    s.name ++ "() takes ".toText ++ taken ++ " but ".toText ++ Text.ofNat given ++
      (if given = 1 then " was given" else " were given").toText

end LineScript.Archive
