import LineScript.Decimal.Reading
import LineScript.Json.Basic
import LineScript.Json.ReadError

/-! Reading JSON. A step returns what it read with the rest of the text; a complaint is kept with
    the number of characters left where it arose, from which the position in the whole follows. -/

namespace LineScript.Json

/-- Why a step stopped. -/
inductive Halt where
  | complaint (c : Complaint) (left : Nat)
  | longInteger (digits : Nat)
  | tooDeep

/-- A complaint about the place where the rest begins. -/
def complain {α : Type} (c : Complaint) (rest : Text) : Except Halt α := .error (.complaint c rest.length)

/-- The characters that may stand between tokens. -/
def isGap (c : CodePoint) : Bool := c = ' ' || c = '\t' || c = '\n' || c = '\r'

/-- The text behind a gap. -/
def skipGap (t : Text) : Text := t.dropWhile isGap

/-! ### Strings -/

/-- The value of a hexadecimal digit. -/
def hexValue? (c : CodePoint) : Option Nat :=
  if '0' ≤ c ∧ c ≤ '9' then some (c.toNat - 48)
  else if 'a' ≤ c ∧ c ≤ 'f' then some (c.toNat - 87)
  else if 'A' ≤ c ∧ c ≤ 'F' then some (c.toNat - 55)
  else none

/-- The number that the first four characters write in base sixteen. -/
def unit? : Text → Option Nat
  | a :: b :: c :: d :: _ => do
    let a ← hexValue? a
    let b ← hexValue? b
    let c ← hexValue? c
    let d ← hexValue? d
    return ((a * 16 + b) * 16 + c) * 16 + d
  | _ => none

/-- The character that a one-letter escape stands for. -/
def escaped? : CodePoint → Option CodePoint
  | .char '"' => some '"'
  | .char '\\' => some '\\'
  | .char '/' => some '/'
  | .char 'b' => some '\x08'
  | .char 'f' => some '\x0c'
  | .char 'n' => some '\n'
  | .char 'r' => some '\r'
  | .char 't' => some '\t'
  | _ => none

/-- A first code unit of a pair. -/
def isLead (u : Nat) : Bool := decide (0xD800 ≤ u) && decide (u ≤ 0xDBFF)

/-- A second code unit of a pair. -/
def isTrail (u : Nat) : Bool := decide (0xDC00 ≤ u) && decide (u ≤ 0xDFFF)

/-- What a code escape stands for, read after its letter, and how many characters of the text it takes.
    A pair of surrogates is one character. -/
def codeEscape (text : Text) : Except Halt (CodePoint × Nat) :=
  match unit? text with
  | none => .error (.complaint .codeEscape (text.length + 1))
  | some u =>
    if text.length < 5 then .error (.complaint .codeEscape (text.length + 1))
    else match isLead u, text.drop 4 with
      | true, .char '\\' :: .char 'u' :: more =>
        if more.length < 5 then .ok (.ofNat u, 4)
        else match unit? more with
          | none => .error (.complaint .codeEscape (more.length + 1))
          | some v =>
            if isTrail v then
              .ok (.ofNat (0x10000 + (u - 0xD800) * 0x400 + (v - 0xDC00)), 10)
            else .ok (.ofNat u, 4)
      | _, _ => .ok (.ofNat u, 4)

/-- The characters up to the closing quote. `opened` is what was left at the opening quote, `skip`
    how many characters still belong to the escape before. -/
def readChars (opened : Nat) : Nat → Text → Except Halt (Text × Text)
  | _, [] => .error (.complaint .unterminated opened)
  | skip + 1, _ :: rest => readChars opened skip rest
  | 0, .char '"' :: rest => .ok ([], rest)
  | 0, .char '\\' :: rest =>
    match rest with
    | [] => .error (.complaint .unterminated opened)
    | .char 'u' :: more => do
      let (c, width) ← codeEscape more
      let (cs, rest) ← readChars opened (1 + width) rest
      return (c :: cs, rest)
    | e :: _ =>
      match escaped? e with
      | none => .error (.complaint .escape (rest.length + 1))
      | some c => do
        let (cs, rest) ← readChars opened 1 rest
        return (c :: cs, rest)
  | 0, c :: rest =>
    if c.toNat < 0x20 then .error (.complaint .control (rest.length + 1))
    else do
      let (cs, rest) ← readChars opened 0 rest
      return (c :: cs, rest)

/-! ### Numbers -/

/-- The fraction after a point, if digits follow the point. -/
def fraction? : Text → Option (Text × Text)
  | .char '.' :: d :: rest =>
    if d.isDigit then some (d :: rest.takeWhile CodePoint.isDigit, rest.dropWhile CodePoint.isDigit) else none
  | _ => none

/-- The exponent after its mark, if digits follow. -/
def exponent? (t : Text) : Option (Int × Text) :=
  let read (negative : Bool) (t : Text) : Option (Int × Text) :=
    let digits := t.takeWhile CodePoint.isDigit
    if digits.isEmpty then none
    else some (Decimal.signed negative (Decimal.natural digits), t.dropWhile CodePoint.isDigit)
  match t with
  | mark :: rest =>
    if mark = 'e' ∨ mark = 'E' then
      match rest with
      | .char '-' :: more => read true more
      | .char '+' :: more => read false more
      | _ => read false rest
    else none
  | [] => none

/-- A number whose whole part has been read. -/
def finishNumber (negative : Bool) (whole rest : Text) : Except Halt (Json × Text) :=
  let (fraction, rest', plain) := match fraction? rest with
    | some (f, r) => (f, r, false)
    | none => ([], rest, true)
  match exponent? rest' with
  | some (e, r) => .ok (.float (Decimal.negateIf negative (Decimal.ofParts whole fraction e)), r)
  | none =>
    if plain then
      if Decimal.maxDigits < whole.length then .error (.longInteger whole.length)
      else .ok (.int (Decimal.signed negative (Decimal.natural whole)), rest')
    else .ok (.float (Decimal.negateIf negative (Decimal.ofParts whole fraction 0)), rest')

/-- A number at the start of the text, which complains as a missing value when there is none. -/
def readNumber (t : Text) : Except Halt (Json × Text) :=
  let (negative, rest) := match t with
    | .char '-' :: more => (true, more)
    | _ => (false, t)
  match rest with
  | .char '0' :: more => finishNumber negative ['0'] more
  | d :: _ =>
    if d.isDigit then
      finishNumber negative (rest.takeWhile CodePoint.isDigit) (rest.dropWhile CodePoint.isDigit)
    else complain .value t
  | [] => complain .value t

/-! ### Values -/

/-- A word that is a value by itself. -/
def word? (t : Text) : Option (Json × Text) :=
  let words : List (Text × Json) :=
    [("null".toText, .null), ("true".toText, .bool true), ("false".toText, .bool false),
      ("NaN".toText, .float (Float.ofBits 0x7FF8000000000000)),
      ("Infinity".toText, .float (Float.ofBits 0x7FF0000000000000)),
      ("-Infinity".toText, .float (Float.ofBits 0xFFF0000000000000))]
  (words.find? fun w => w.1.isPrefixOf t).map fun w => (w.2, t.drop w.1.length)

mutual

/-- A value at the start of the text. `fuel` bounds the steps and `depth` the nesting. -/
def readValue : Nat → Nat → Text → Except Halt (Json × Text)
  | 0, _, _ => .error .tooDeep
  | fuel + 1, depth, t =>
    match t with
    | [] => complain .value t
    | .char '"' :: rest => do
      let (cs, rest) ← readChars t.length 0 rest
      return (.str cs, rest)
    | .char '[' :: rest =>
      if depth = 0 then .error .tooDeep
      else match skipGap rest with
        | .char ']' :: rest => .ok (.arr [], rest)
        | rest => do
          let (items, rest) ← readItems fuel (depth - 1) rest
          return (.arr items, rest)
    | .char '{' :: rest =>
      if depth = 0 then .error .tooDeep
      else match skipGap rest with
        | .char '}' :: rest => .ok (.obj [], rest)
        | rest => do
          let (members, rest) ← readMembers fuel (depth - 1) [] rest
          return (.obj members, rest)
    | _ =>
      match word? t with
      | some found => .ok found
      | none => readNumber t

/-- The items of an array from the first one on. -/
def readItems : Nat → Nat → Text → Except Halt (List Json × Text)
  | 0, _, _ => .error .tooDeep
  | fuel + 1, depth, t => do
    let (item, rest) ← readValue fuel depth t
    match skipGap rest with
    | .char ']' :: rest => return ([item], rest)
    | .char ',' :: rest =>
      let (items, rest) ← readItems fuel depth (skipGap rest)
      return (item :: items, rest)
    | rest => complain .comma rest

/-- The members of an object from the next one on; `read` are those before it. -/
def readMembers : Nat → Nat → List (Text × Json) → Text → Except Halt (List (Text × Json) × Text)
  | 0, _, _, _ => .error .tooDeep
  | fuel + 1, depth, read, t =>
    match t with
    | .char '"' :: rest => do
      let (name, rest) ← readChars t.length 0 rest
      match skipGap rest with
      | .char ':' :: rest =>
        let (value, rest) ← readValue fuel depth (skipGap rest)
        let read := put name value read
        match skipGap rest with
        | .char '}' :: rest => return (read, rest)
        | .char ',' :: rest => readMembers fuel depth read (skipGap rest)
        | rest => complain .comma rest
      | rest => complain .colon rest
    | _ => complain .memberName t

end

/-- How deep arrays and objects may nest. -/
def maxDepth : Nat := 980

/-- The value that a whole text denotes. -/
def readWhole (t : Text) : Except Halt Json := do
  match t with
  | .char '\uFEFF' :: _ => .error (.complaint .byteOrderMark t.length)
  | _ =>
    let (v, rest) ← readValue (2 * t.length + 2) maxDepth (skipGap t)
    match skipGap rest with
    | [] => return v
    | rest => .error (.complaint .extraData rest.length)

/-- The value that a text writes. -/
def read (t : Text) : Except ReadError Json :=
  match readWhole t with
  | .ok v => .ok v
  | .error (.complaint c left) => .error (.ofPosition c t (t.length - left))
  | .error (.longInteger digits) => .error (.longInteger digits)
  | .error .tooDeep => .error .tooDeep

end LineScript.Json
