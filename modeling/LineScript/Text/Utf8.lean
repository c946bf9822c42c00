import LineScript.Text.Quoted

/-! Text in UTF-8. A decoder stops at the first bytes that are not a character and says which they are
    and what is wrong with them; surrogates cannot be encoded. -/

namespace LineScript.Text

/-- What is wrong with a sequence of bytes. -/
inductive Utf8Complaint where
  | start
  | continuation
  | ending
deriving DecidableEq, Repr

/-- Bytes that are no character: where they begin, how many they are, and the first of them. -/
structure Utf8Fault where
  complaint : Utf8Complaint
  position : Nat
  length : Nat
  byte : Nat
deriving DecidableEq, Repr

/-- The wording of a complaint. -/
def Utf8Complaint.message : Utf8Complaint → Text
  | .start => "invalid start byte".toText
  | .continuation => "invalid continuation byte".toText
  | .ending => "unexpected end of data".toText

/-- How many bytes follow a first byte, and the range of the byte after it. -/
def following? (b : Nat) : Option (Nat × Nat × Nat) :=
  if 0xC2 ≤ b ∧ b ≤ 0xDF then some (1, 0x80, 0xBF)
  else if b = 0xE0 then some (2, 0xA0, 0xBF)
  else if b = 0xED then some (2, 0x80, 0x9F)
  else if 0xE1 ≤ b ∧ b ≤ 0xEF then some (2, 0x80, 0xBF)
  else if b = 0xF0 then some (3, 0x90, 0xBF)
  else if b = 0xF4 then some (3, 0x80, 0x8F)
  else if 0xF1 ≤ b ∧ b ≤ 0xF3 then some (3, 0x80, 0xBF)
  else none

/-- The code point that continuation bytes complete; `low` and `high` bound the next of them, and
    `taken` counts the bytes of the character so far. -/
def continuation (low high value taken : Nat) : Nat → List Nat → Except (Utf8Complaint × Nat) Nat
  | 0, _ => .ok value
  | _ + 1, [] => .error (.ending, taken)
  | more + 1, b :: rest =>
    if low ≤ b ∧ b ≤ high then continuation 0x80 0xBF (value * 64 + b % 64) (taken + 1) more rest
    else .error (.continuation, taken)

/-- The bits of the code point in a first byte with `more` bytes after it. -/
def leadBits (b more : Nat) : Nat :=
  match more with
  | 1 => b % 32
  | 2 => b % 16
  | _ => b % 8

/-- The text of bytes from a position on; the first `skip` of them belong to the character before. -/
def decodeFrom (position : Nat) : Nat → List Nat → Except Utf8Fault Text
  | _, [] => .ok []
  | skip + 1, _ :: rest => decodeFrom (position + 1) skip rest
  | 0, b :: rest =>
    if b < 0x80 then do
      let t ← decodeFrom (position + 1) 0 rest
      return .ofNat b :: t
    else match following? b with
      | none => .error ⟨.start, position, 1, b⟩
      | some (more, low, high) =>
        match continuation low high (leadBits b more) 1 more rest with
        | .error (complaint, length) => .error ⟨complaint, position, length, b⟩
        | .ok value => do
          let t ← decodeFrom (position + 1) more rest
          return .ofNat value :: t

/-- The text that bytes encode. -/
def ofUtf8 (bytes : List Nat) : Except Utf8Fault Text := decodeFrom 0 0 bytes

/-! ### Encoding -/

/-- How many bytes a code point takes. -/
def byteCount (c : CodePoint) : Nat :=
  if c.toNat < 0x80 then 1 else if c.toNat < 0x800 then 2 else if c.toNat < 0x10000 then 3 else 4

/-- How many bytes stand in the last line of a text. -/
def lastLineBytes (t : Text) : Nat :=
  (t.reverse.takeWhile fun c : CodePoint => c ≠ '\n').foldl (fun n c => n + byteCount c) 0

/-- Surrogates that keep a text from being encoded: where they begin, how many they are, and the first
    of them. -/
structure EncodeFault where
  position : Nat
  length : Nat
  first : CodePoint
deriving DecidableEq, Repr

/-- The wording of a fault in encoding, with its place. -/
def EncodeFault.message (f : EncodeFault) : Text :=
  "'utf-8' codec can't encode ".toText ++
    (if f.length = 1 then
      "character '".toText ++ escapeCode f.first ++ "' in position ".toText ++ ofNat f.position
    else
      "characters in position ".toText ++ ofNat f.position ++ "-".toText ++
        ofNat (f.position + f.length - 1)) ++
    ": surrogates not allowed".toText

/-- The first surrogates of a text that are not excused, up to the next character. -/
def encodeFault? (excused : CodePoint → Bool) (t : Text) : Option EncodeFault :=
  let stops (c : CodePoint) : Bool := c.isSurrogate && !excused c
  match t.dropWhile fun c => !stops c with
  | [] => none
  | c :: rest =>
    some ⟨(t.takeWhile fun c => !stops c).length, (rest.takeWhile CodePoint.isSurrogate).length + 1, c⟩

/-- What keeps a text from being written in UTF-8. -/
def unencodable? (t : Text) : Option EncodeFault := encodeFault? (fun _ => false) t

/-- Whether a surrogate stands for a byte in the name of a file. -/
def isEscapedByte (c : CodePoint) : Bool := decide (0xDC80 ≤ c.toNat) && decide (c.toNat ≤ 0xDCFF)

end LineScript.Text
