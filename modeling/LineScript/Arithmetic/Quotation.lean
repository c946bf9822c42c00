import LineScript.Json.Reader
import LineScript.Text.CharacterName

/-! Quoted texts inside expressions. They have no value there, but one that is badly written spoils the
    whole expression. -/

namespace LineScript.Arithmetic

/-- A quoted text as it is written between its quotes, with the kinds that its prefix announces. -/
structure Quotation where
  bytes : Bool
  raw : Bool
  format : Bool
  body : Text
deriving DecidableEq

namespace Quotation

/-- The digits of a hexadecimal escape. -/
def isHex (c : CodePoint) : Bool := (Json.hexValue? c).isSome

/-- Whether the text begins with so many digits in base sixteen. -/
def startsHex (count : Nat) (t : Text) : Bool := (t.take count).length = count && (t.take count).all isHex

/-- The number that hexadecimal digits denote. -/
def hexNumber (t : Text) : Nat := t.foldl (fun n c => n * 16 + (Json.hexValue? c).getD 0) 0

/-- Whether what follows a backslash and a letter completes the escape. -/
def completes (bytes : Bool) (letter : CodePoint) (rest : Text) : Bool :=
  if letter = 'x' then startsHex 2 rest
  else if bytes then true
  else if letter = 'u' then startsHex 4 rest
  else if letter = 'U' then startsHex 8 rest && decide (hexNumber (rest.take 8) ≤ 0x10FFFF)
  else if letter = 'N' then
    match rest with
    | .char '{' :: more =>
      more.contains (.char '}') && Text.isCharacterName (more.takeWhile fun c : CodePoint => c ≠ '}')
    | _ => false
  else true

/-- Whether every escape of a text is complete. -/
def escapesComplete (bytes : Bool) : Text → Bool
  | [] => true
  | .char '\\' :: letter :: rest => completes bytes letter rest && escapesComplete bytes rest
  | _ :: rest => escapesComplete bytes rest

/-- Whether the quotation stands for a text at all. Bytes are ASCII. -/
def isSound (q : Quotation) : Bool :=
  (!q.bytes || q.body.all fun c => decide (c.toNat < 128)) &&
    (q.raw || q.format || escapesComplete q.bytes q.body)

end Quotation

/-! ### Reading -/

/-- The body of a text up to its closing quote, which no line end may precede. -/
def closeLine? (mark : CodePoint) : Text → Option (Text × Text)
  | [] => none
  | .char '\\' :: c :: rest => (closeLine? mark rest).map fun p => (.char '\\' :: c :: p.1, p.2)
  | c :: rest =>
    if c = mark then some ([], rest)
    else if c = '\n' then none
    else (closeLine? mark rest).map fun p => (c :: p.1, p.2)

/-- The body of a text up to three closing quotes. -/
def closeBlock? (mark : CodePoint) : Text → Option (Text × Text)
  | [] => none
  | .char '\\' :: c :: rest => (closeBlock? mark rest).map fun p => (.char '\\' :: c :: p.1, p.2)
  | c :: rest =>
    if [mark, mark, mark].isPrefixOf (c :: rest) then some ([], rest.drop 2)
    else (closeBlock? mark rest).map fun p => (c :: p.1, p.2)

/-- The prefixes of a quoted text, without regard to case. -/
def quotationPrefixes : List Text := ["", "r", "b", "u", "f", "br", "rb", "fr", "rf"].map String.toText

/-- The two characters that open a quotation. -/
def isQuote (c : CodePoint) : Bool := c = '"' || decide (c.toNat = 39)

/-- The prefix of a quoted text at the start, its quote, and what follows the quote. -/
def openQuotation? (t : Text) : Option (Text × CodePoint × Text) :=
  let mark := (t.take 3).takeWhile fun c => !isQuote c
  let small := Text.ofChars ((Text.chars mark).map Char.toLower)
  match t.drop mark.length with
  | quote :: rest =>
    if isQuote quote && quotationPrefixes.contains small then some (small, quote, rest) else none
  | [] => none

/-- The quoted text after its prefix and first quote, if it is closed. -/
def quotation? (mark : Text) (quote : CodePoint) (t : Text) : Option (Quotation × Text) := do
  let (body, rest) ←
    if [quote, quote].isPrefixOf t then closeBlock? quote (t.drop 2) else closeLine? quote t
  return (⟨mark.contains (.char 'b'), mark.contains (.char 'r'), mark.contains (.char 'f'), body⟩, rest)

end LineScript.Arithmetic
