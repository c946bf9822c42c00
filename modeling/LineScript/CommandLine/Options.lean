import LineScript.Json.Number

/-! The options of the command line. A long option may be shortened as far as it stays unambiguous,
    and its value follows either an equals sign or as the next word; `--` ends the options. -/

namespace LineScript.CommandLine

/-- The options of the command. -/
inductive Flag where
  | help
  | maxSteps
  | maxOutput
  | worker
  | timeout
deriving DecidableEq, Repr

namespace Flag

/-- All spellings, in the order in which they are listed. -/
def spellings : List (Text × Flag) :=
  [("-h".toText, .help), ("--help".toText, .help), ("--max-steps".toText, .maxSteps),
    ("--max-output-chars".toText, .maxOutput), ("--subprocess".toText, .worker),
    ("--timeout".toText, .timeout)]

/-- The option that is written so. -/
def ofSpelling? (t : Text) : Option Flag := spellings.lookup t

/-- The option in a message: its spellings. -/
def title (f : Flag) : Text :=
  Text.join ['/'] ((spellings.filter fun p => p.2 == f).map (·.1))

end Flag

/-- What is wrong with the words of a command line. -/
inductive Misuse where
  | ambiguous (written : Text) (candidates : List Text)
  | valueMissing (flag : Flag)
  | valueIgnored (flag : Flag) (value : Text)
  | badInteger (flag : Flag) (value : Text)
  | badFloat (flag : Flag) (value : Text)
  | noFile
  | leftOver (words : List Text)
deriving DecidableEq, Repr

/-- The wording of a misuse. -/
def Misuse.message : Misuse → Text
  | .ambiguous written candidates =>
    "ambiguous option: ".toText ++ written ++ " could match ".toText ++
      Text.join ", ".toText candidates
  | .valueMissing flag => "argument ".toText ++ flag.title ++ ": expected one argument".toText
  | .valueIgnored flag value =>
    "argument ".toText ++ flag.title ++ ": ignored explicit argument ".toText ++ Text.quoted value
  | .badInteger flag value =>
    "argument ".toText ++ flag.title ++ ": invalid int value: ".toText ++ Text.quoted value
  | .badFloat flag value =>
    "argument ".toText ++ flag.title ++ ": invalid float value: ".toText ++ Text.quoted value
  | .noFile => "the following arguments are required: file".toText
  | .leftOver words => "unrecognized arguments: ".toText ++ Text.join [' '] words

/-! ### Words -/

/-- What a word of the command line is. An option without a flag is an unknown one. -/
inductive Word where
  | operand (t : Text)
  | terminator
  | option (flag : Option Flag) (written : Text) (value : Option Text)
deriving DecidableEq

/-- The decimal digits of all scripts. -/
def isDigit (c : CodePoint) : Bool := (Text.digitValue? c).isSome

/-- Whether a word is a negative number: digits, perhaps with a point before the last of them. A line
    feed may end it. -/
def isNegativeNumber (t : Text) : Bool :=
  match t with
  | .char '-' :: rest =>
    let rest := if rest.getLast? = some (.char '\n') then rest.dropLast else rest
    match rest.dropWhile isDigit with
    | [] => !rest.isEmpty
    | .char '.' :: fraction => !fraction.isEmpty && fraction.all isDigit
    | _ => false
  | _ => false

/-- The part before the first equals sign, and the part after it. -/
def splitValue (t : Text) : Text × Option Text :=
  let before := t.takeWhile (fun c : CodePoint => c ≠ '=')
  match t.dropWhile (fun c : CodePoint => c ≠ '=') with
  | _ :: value => (before, some value)
  | [] => (before, none)

/-- The spellings that a shortened option can stand for, with its value. A single dash takes what
    follows its letter as the value. -/
def candidates (t : Text) : List (Text × Flag × Option Text) :=
  match t with
  | .char '-' :: .char '-' :: _ =>
    let (stem, value) := splitValue t
    (Flag.spellings.filter fun p => stem.isPrefixOf p.1).map fun p => (p.1, p.2, value)
  | _ =>
    Flag.spellings.filterMap fun p =>
      if p.1 = t.take 2 then some (p.1, p.2, some (t.drop 2))
      else if t.isPrefixOf p.1 then some (p.1, p.2, none)
      else none

/-- What one word is, as long as options are looked for. -/
def Word.ofText (t : Text) : Except Misuse Word :=
  match t with
  | [] => .ok (.operand t)
  | [.char '-'] => .ok (.operand t)
  | .char '-' :: _ =>
    match Flag.ofSpelling? t with
    | some f => .ok (.option (some f) t none)
    | none =>
      let (stem, value) := splitValue t
      match value, Flag.ofSpelling? stem with
      | some v, some f => .ok (.option (some f) t (some v))
      | _, _ =>
        match candidates t with
        | [(_, f, value)] => .ok (.option (some f) t value)
        | [] =>
          if isNegativeNumber t || t.contains (.char ' ') then .ok (.operand t)
          else .ok (.option none t none)
        | many => .error (.ambiguous t (many.map (·.1)))
  | _ => .ok (.operand t)

/-- The words of a command line. After the first `--` all are operands. -/
def words : List Text → Except Misuse (List Word)
  | [] => .ok []
  | t :: rest =>
    if t = "--".toText then .ok (.terminator :: rest.map .operand)
    else do
      let w ← Word.ofText t
      let ws ← words rest
      return w :: ws

/-! ### Options -/

/-- The file and the values of the options, which go into the settings of the run. -/
structure Options where
  file : Option Text
  maxSteps : Option Json
  maxOutput : Option Json
  worker : Bool
  timeout : Json

/-- The options when none is given. -/
def Options.none : Options := ⟨.none, .none, .none, false, .float 2⟩

/-- Why a command line starts no run. -/
inductive Halt where
  | help
  | misuse (m : Misuse)

/-- The value that a text gives an option. Two dashes end the options wherever they stand alone, so
    that as a value they leave nothing, an empty array. -/
def Flag.value (flag : Flag) (t : Text) : Except Misuse Json :=
  if t = "--".toText then .ok (.arr [])
  else match flag with
    | .timeout =>
      match Json.floatOfText t with
      | .ok x => .ok (.float x)
      | .error _ => .error (.badFloat flag t)
    | _ =>
      match Json.integerOfText t with
      | .ok n => .ok (.int n)
      | .error _ => .error (.badInteger flag t)

/-- The options with one value put in its place. -/
def Options.put (o : Options) (flag : Flag) (v : Json) : Options :=
  match flag with
  | .maxSteps => { o with maxSteps := some v }
  | .maxOutput => { o with maxOutput := some v }
  | .timeout => { o with timeout := v }
  | _ => o

/-- The options with the value that a text gives. -/
def Options.setValue (o : Options) (flag : Flag) (t : Text) : Except Halt Options :=
  match flag.value t with
  | .ok v => .ok (o.put flag v)
  | .error m => .error (.misuse m)

/-- What a word that is not an option looked like. -/
def Word.text : Word → Text
  | .operand t => t
  | .terminator => "--".toText
  | .option _ written _ => written

/-- Whether a word of the command is an option. -/
def Word.isOption : Word → Bool
  | .option _ _ _ => true
  | _ => false

/-- The words after the last option: the first operand is the file unless there is one already, and
    the rest is left over. -/
def Options.finish (o : Options) (extra : List Text) (ws : List Word) : Options × List Text :=
  match o.file, ws.dropWhile (· = .terminator) with
  | .none, .operand t :: rest =>
    ({ o with file := some t }, extra ++ (rest.dropWhile (· = .terminator)).map Word.text)
  | _, _ => (o, extra ++ ws.map Word.text)

/-- The options that the words set, and the words that are left over. -/
def Options.collect (o : Options) (extra : List Text) : List Word → Except Halt (Options × List Text)
  | [] => .ok (o.finish extra [])
  | w :: rest =>
    if !(w :: rest).any Word.isOption then .ok (o.finish extra (w :: rest))
    else match w with
      | .option .none written _ => o.collect (extra ++ [written]) rest
      | .option (some .help) _ .none => .error .help
      | .option (some .help) written (some v) =>
        if "--".toText.isPrefixOf written || v.isEmpty then .error (.misuse (.valueIgnored .help v))
        else
          let unknown := v.dropWhile (fun c : CodePoint => c = 'h')
          if unknown.isEmpty then .error .help else .error (.misuse (.valueIgnored .help unknown))
      | .option (some .worker) _ .none => { o with worker := true }.collect extra rest
      | .option (some .worker) _ (some v) => .error (.misuse (.valueIgnored .worker v))
      | .option (some f) _ (some v) => do
        let o ← o.setValue f v
        o.collect extra rest
      | .option (some f) _ .none =>
        match rest with
        | .operand v :: rest => do
          let o ← o.setValue f v
          o.collect extra rest
        | _ => .error (.misuse (.valueMissing f))
      | w =>
        match o.file with
        | .none => { o with file := some w.text }.collect extra rest
        | some _ => o.collect (extra ++ [w.text]) rest

/-- The options of a command line, which has to name a file and nothing that is not understood. -/
def Options.ofArguments (arguments : List Text) : Except Halt (Text × Options) :=
  match words arguments with
  | .error m => .error (.misuse m)
  | .ok ws => do
    let (o, extra) ← Options.none.collect [] ws
    match o.file with
    | .none => .error (.misuse .noFile)
    | some file => if extra.isEmpty then return (file, o) else .error (.misuse (.leftOver extra))

end LineScript.CommandLine
