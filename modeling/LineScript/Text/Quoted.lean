import LineScript.Text.Printable

/-! Quoted text: how a message shows a text between quotes. The apostrophe is the quote unless the
    text holds an apostrophe and no double quote. The quote and the backslash are escaped, and a
    character that cannot be shown is written by its code point. -/

namespace LineScript.Text

/-- The digits in base sixteen, filled up with zeros to the width. -/
def hex (width n : Nat) : Text :=
  let digits := Nat.toDigits 16 n
  ofChars (List.replicate (width - digits.length) '0' ++ digits)

/-- The code point of a character as an escape of the least width that holds it. -/
def escapeCode (c : CodePoint) : Text :=
  let n := c.toNat
  if n < 0x100 then '\\' :: 'x' :: hex 2 n
  else if n < 0x10000 then '\\' :: 'u' :: hex 4 n
  else '\\' :: 'U' :: hex 8 n

/-- A character within the given quote marks. -/
def quoteChar (mark c : CodePoint) : Text :=
  if c = mark ∨ c = '\\' then ['\\', c]
  else if c = '\t' then ['\\', 't']
  else if c = '\n' then ['\\', 'n']
  else if c = '\r' then ['\\', 'r']
  else if isPrintable c then [c]
  else escapeCode c

/-- The single quote mark. -/
def apostrophe : CodePoint := .ofNat 39

/-- The quote that a text is written with. -/
def quoteMark (t : Text) : CodePoint :=
  if t.contains apostrophe && !t.contains (.char '"') then '"' else apostrophe

/-- A text in quotes, as a message shows it. -/
def quoted (t : Text) : Text :=
  let mark := quoteMark t
  mark :: t.flatMap (quoteChar mark) ++ [mark]

end LineScript.Text
