import LineScript.Arithmetic.Number
import LineScript.Arithmetic.Quotation
import LineScript.Text.Identifier

/-! The tokens of an expression. Spaces, tabs and form feeds separate them, `#` begins a comment, and a
    backslash before a line end continues the line. A line end is a gap inside brackets; outside, it
    ends the expression, and only blank and comment lines may follow. -/

namespace LineScript.Arithmetic

/-- A token. The signs of arithmetic have constructors of their own; `word` is a word with a meaning of
    its own, `sign` any other sign, `lineEnd` a line end with more after it, which is left out unless it
    is broken, and `broken` a place from which no token can be read. -/
inductive Token where
  | number (n : Number)
  | imaginary
  | unreadable
  | name (written : Text)
  | plus
  | minus
  | star
  | slash
  | opening
  | closing
  | word (w : Text)
  | quotation (q : Quotation)
  | sign (s : Text)
  | lineEnd
  | broken
deriving DecidableEq

/-- The token of a numeral. -/
def Numeral.token : Numeral → Token
  | .number n => .number n
  | .imaginary => .imaginary
  | .unreadable => .unreadable

/-- How a sign or a word is written; other tokens have no spelling of their own. -/
def Token.spelling : Token → Text
  | .plus => "+".toText
  | .minus => "-".toText
  | .star => "*".toText
  | .slash => "/".toText
  | .opening => "(".toText
  | .closing => ")".toText
  | .word w => w
  | .sign s => s
  | _ => []

/-! ### Names and signs -/

/-- Words with a meaning of their own, which are no names. -/
def reserved : List Text :=
  ["False", "None", "True", "and", "as", "assert", "async", "await", "break", "class", "continue",
    "def", "del", "elif", "else", "except", "finally", "for", "from", "global", "if", "import", "in",
    "is", "lambda", "nonlocal", "not", "or", "pass", "raise", "return", "try", "while", "with",
    "yield"].map String.toText

/-- The token of a word, which has to be an identifier. -/
def wordToken (t : Text) : Token :=
  if reserved.contains t then .word t
  else if Text.isIdentifier t then .name t
  else .broken

/-- The signs of more than one character, the longer ones first. -/
def longSigns : List Text :=
  ["**=", "...", "//=", "<<=", ">>=", "!=", "%=", "&=", "**", "*=", "+=", "-=", "->", "//", "/=", ":=",
    "<<", "<=", "<>", "==", ">=", ">>", "@=", "^=", "|="].map String.toText

/-- The token of one character that is no bracket. Controls are no tokens. -/
def signToken (c : CodePoint) : Token :=
  if c = '+' then .plus
  else if c = '-' then .minus
  else if c = '*' then .star
  else if c = '/' then .slash
  else if c.toNat < 0x20 ∨ c.toNat = 0x7F then .broken
  else .sign [c]

/-- The sign at the start of a text, and how many characters it takes. -/
def sign (t : Text) : Token × Nat :=
  match longSigns.find? fun s => s.isPrefixOf t with
  | some s => (.sign s, s.length)
  | none => (t.head?.elim .broken signToken, 1)

/-! ### Brackets -/

/-- How many brackets may be open at once. -/
def maxOpen : Nat := 200

/-- The bracket that closes an opening one. -/
def closingOf? (c : CodePoint) : Option CodePoint :=
  if c = '(' then some ')' else if c = '[' then some ']' else if c = '{' then some '}' else none

/-- The brackets that close. -/
def isClosing (c : CodePoint) : Bool := c = ')' || c = ']' || c = '}'

/-- The token of a bracket; only the round ones are of arithmetic. -/
def bracketToken (c : CodePoint) : Token :=
  if c = '(' then .opening else if c = ')' then .closing else .sign [c]

/-! ### Lines -/

/-- The indentation of a line and what follows it. A tab goes to the next multiple of eight, a form
    feed back to the margin; before a continued line the first indentation counts, if there is any. -/
def indentation? (column kept : Nat) : Text → Option (Nat × Text)
  | [] => some (if kept = 0 then column else kept, [])
  | .char ' ' :: rest => indentation? (column + 1) kept rest
  | .char '\t' :: rest => indentation? ((column / 8 + 1) * 8) kept rest
  | .char '\x0c' :: rest => indentation? 0 kept rest
  | .char '\\' :: rest =>
    match rest with
    | .char '\n' :: more =>
      if more.isEmpty then none else indentation? column (if kept = 0 then column else kept) more
    | _ => none
  | t => some (if kept = 0 then column else kept, t)

/-- What a comment leaves of a text. -/
def afterComment (t : Text) : Text := t.dropWhile fun c : CodePoint => c ≠ '\n'

/-! ### Lexemes -/

/-- A token in its place: the text from its first character on, and the text after it. -/
structure Lexeme where
  token : Token
  start : Text
  rest : Text
deriving DecidableEq

/-- What is left where no token can be read. -/
def unread (t : Text) : List Lexeme := [⟨.broken, t, t⟩]

mutual

/-- The lexemes from the start of a line on; `ended` tells that the expression stands before it. -/
def lexLine : Nat → Bool → Text → List Lexeme
  | 0, _, t => unread t
  | fuel + 1, ended, t =>
    match indentation? 0 0 t with
    | none => unread t
    | some (_, []) => []
    | some (column, c :: rest) =>
      if c = '#' then lexLine fuel ended (afterComment rest)
      else if c = '\n' then lexLine fuel ended rest
      else if column ≠ 0 then [⟨.lineEnd, t, t⟩]
      else if ended then
        match lex fuel [] (c :: rest) with
        | ⟨.broken, _, _⟩ :: _ => ⟨.lineEnd, t, t⟩ :: unread t
        | _ => [⟨.lineEnd, t, t⟩]
      else lex fuel [] (c :: rest)

/-- The lexemes from within a line on; `awaited` are the brackets that have to be closed, the innermost
    first. -/
def lex : Nat → List CodePoint → Text → List Lexeme
  | 0, _, t => unread t
  | _ + 1, awaited, [] => if awaited.isEmpty then [] else unread []
  | fuel + 1, awaited, c :: rest =>
    let start := c :: rest
    if c = ' ' ∨ c = '\t' ∨ c = '\x0c' then lex fuel awaited rest
    else if c = '#' then lex fuel awaited (afterComment rest)
    else if c = '\n' then
      if awaited.isEmpty then lexLine fuel true rest else lex fuel awaited rest
    else if c = '\\' then
      match rest with
      | .char '\n' :: more => if more.isEmpty then unread start else lex fuel awaited more
      | _ => unread start
    else if c.isDigit ∨ c = '.' ∧ rest.head?.any CodePoint.isDigit then
      match number? start with
      | none => unread start
      | some (n, rest) => ⟨n.token, start, rest⟩ :: lex fuel awaited rest
    else match openQuotation? start with
      | some (mark, quote, rest) =>
        match quotation? mark quote rest with
        | none => unread start
        | some (q, rest) => ⟨.quotation q, start, rest⟩ :: lex fuel awaited rest
      | none =>
        if namelike c then
          match wordToken (c :: rest.takeWhile namelike) with
          | .broken => unread start
          | w =>
            let rest := rest.dropWhile namelike
            ⟨w, start, rest⟩ :: lex fuel awaited rest
        else match closingOf? c with
          | some closing =>
            if maxOpen ≤ awaited.length then unread start
            else ⟨bracketToken c, start, rest⟩ :: lex fuel (closing :: awaited) rest
          | none =>
            if isClosing c then
              if awaited.head? = some c then ⟨bracketToken c, start, rest⟩ :: lex fuel awaited.tail rest
              else unread start
            else match sign start with
              | (.broken, _) => unread start
              | (s, width) =>
                let rest := rest.drop (width - 1)
                ⟨s, start, rest⟩ :: lex fuel awaited rest

end

/-- The lexemes of a text whose line ends are line feeds. -/
def lexemes (t : Text) : List Lexeme := lexLine (t.length + 2) false t

/-- The tokens of such a text. -/
def tokens (t : Text) : List Token := (lexemes t).map Lexeme.token

end LineScript.Arithmetic
