import LineScript.Arithmetic.Grammar.Machine

/-! Quoted texts with fields: expressions between braces, each perhaps with a conversion and a layout of
    its own. A brace that is written twice is a brace. -/

namespace LineScript.Arithmetic.Grammar.Formatted

/-! ### Between the fields -/

/-- How a piece of plain text ends: at a field, after a brace written twice, before a closing brace, or
    with the text. -/
inductive Ending where
  | field
  | doubled
  | closing
  | finished
deriving DecidableEq, Repr

/-- A piece of plain text, how it ends, and what follows the brace that ends it. -/
structure Piece where
  plain : Text
  ending : Ending
  rest : Text

/-- The piece with more plain text before it. -/
def Piece.prepend (t : Text) (p : Piece) : Piece := { p with plain := t ++ p.plain }

/-- The piece that a brace ends. Outside of layouts a brace can be doubled, and a closing one has to
    be. -/
def atBrace? (nested : Bool) (brace : CodePoint) (rest : Text) : Option Piece :=
  if !nested && rest.head? = some brace then some ⟨[brace], .doubled, rest.tail⟩
  else if brace = '{' then some ⟨[], .field, rest⟩
  else if nested then some ⟨[], .closing, rest⟩
  else none

/-- The characters that can begin or end a field. -/
def isBrace (c : CodePoint) : Bool := c = '{' || c = '}'

/-- The piece at the start of a text. Where escapes have a meaning, a backslash takes away that of the
    character after it, but not from a brace; the braces around the name of a character are no fields. -/
def piece? (raw nested : Bool) : Nat → Text → Option Piece
  | 0, _ => none
  | _ + 1, [] => some ⟨[], .finished, []⟩
  | fuel + 1, c :: rest =>
    if !raw && c = '\\' then
      match rest with
      | [] => some ⟨[c], .finished, []⟩
      | .char 'N' :: .char '{' :: more =>
        let name := more.takeWhile fun c : CodePoint => c ≠ '}'
        let closing := (more.drop name.length).take 1
        (piece? raw nested fuel (more.drop (name.length + 1))).map
          (Piece.prepend (c :: 'N' :: '{' :: name ++ closing))
      | .char 'N' :: more =>
        (piece? raw nested fuel (more.drop 1)).map (Piece.prepend (c :: 'N' :: more.take 1))
      | escaped :: more =>
        if isBrace escaped then (atBrace? nested escaped more).map (Piece.prepend [c])
        else (piece? raw nested fuel more).map (Piece.prepend [c, escaped])
    else if isBrace c then atBrace? nested c rest
    else (piece? raw nested fuel rest).map (Piece.prepend [c])

/-! ### Fields -/

/-- The signs that end the expression of a field, unless they begin a comparison. -/
def endsExpression (c : CodePoint) : Bool := c = '!' || c = ':' || c = '}' || c = '='

/-- Whether two characters are a comparison together. -/
def isComparison (c : CodePoint) (rest : Text) : Bool :=
  (c = '!' || c = '=' || c = '<' || c = '>') && rest.head? = some (.char '=')

/-- Where the reading of a field's expression stands: inside a quotation, which begins with three quotes
    or with one, or outside, with the brackets that have to be closed. -/
inductive Within where
  | quotation (quote : CodePoint) (triple : Bool)
  | code
deriving DecidableEq

/-- The expression at the start of a field, and the rest from the sign that ends it on. Neither a
    backslash nor a comment may stand in it. -/
def expression? (within : Within) (awaited : List CodePoint) : Nat → Text → Option (Text × Text)
  | 0, _ => none
  | _ + 1, [] => none
  | fuel + 1, c :: rest =>
    let take (count : Nat) (within : Within) (awaited : List CodePoint) : Option (Text × Text) :=
      (expression? within awaited fuel (rest.drop (count - 1))).map fun p =>
        (c :: rest.take (count - 1) ++ p.1, p.2)
    let tripled := [c, c].isPrefixOf rest
    if c = '\\' then none
    else match within with
      | .quotation quote triple =>
        if c = quote && (!triple || tripled) then take (if triple then 3 else 1) .code awaited
        else take 1 within awaited
      | .code =>
        if isQuote c then take (if tripled then 3 else 1) (.quotation c tripled) awaited
        else match closingOf? c with
          | some closing =>
            if maxOpen ≤ awaited.length then none else take 1 .code (closing :: awaited)
          | none =>
            if c = '#' then none
            else if awaited.isEmpty && isComparison c rest then take 2 .code awaited
            else if awaited.isEmpty && endsExpression c then some ([], c :: rest)
            else if isClosing c then
              if awaited.head? = some c then take 1 .code awaited.tail else none
            else take 1 .code awaited

/-- A character that separates tokens. -/
def isGap (c : CodePoint) : Bool := c = ' ' || c = '\t' || c = '\n' || c = '\x0c'

/-- A blank after an equals sign. -/
def isSpace (c : CodePoint) : Bool := isGap c || c = '\x0b' || c = '\r'

/-- What follows an equals sign with the blanks after it, and a conversion. -/
def afterConversion? (t : Text) : Option Text :=
  let t := match t with
    | .char '=' :: rest => rest.dropWhile isSpace
    | t => t
  match t with
  | .char '!' :: c :: rest => if c = 's' ∨ c = 'r' ∨ c = 'a' then some rest else none
  | .char '!' :: [] => none
  | t => some t

/-- How deep fields nest: one can stand in the layout of another. -/
def maxFields : Nat := 2

/-- Reads the code of a field, given what follows the field's opening brace. -/
abbrev FieldReader := Text → Text → Except Halt Tree

mutual

/-- The pieces and fields of a text, up to its end or, in a layout, to a closing brace; how high the
    highest of them is, and what follows. The steps that are left are always more than the characters. -/
def readPieces (read : FieldReader) (raw : Bool) : Nat → Nat → Text → Except Flaw (Nat × Text)
  | 0, _, _ => .error .whole
  | fuel + 1, depth, t =>
    match piece? raw (depth ≠ 0) fuel t with
    | none => .error .whole
    | some p =>
      if !raw && !Quotation.escapesComplete false p.plain then .error .whole
      else match p.ending with
        | .finished => if depth = 0 then .ok (1, []) else .error .whole
        | .closing => .ok (1, p.rest)
        | .doubled => readPieces read raw fuel depth p.rest
        | .field => do
          let (height, rest) ← readField read raw fuel depth p.rest
          let (further, rest) ← readPieces read raw fuel depth rest
          return (max height further, rest)

/-- A field after its opening brace. -/
def readField (read : FieldReader) (raw : Bool) : Nat → Nat → Text → Except Flaw (Nat × Text)
  | 0, _, _ => .error .whole
  | fuel + 1, depth, t =>
    if maxFields ≤ depth then .error .whole
    else match expression? .code [] fuel t with
      | none => .error .whole
      | some (code, rest) =>
        if code.all isGap then .error .whole
        else do
          let e ← (read code t).mapError .halt
          match afterConversion? rest with
          | some (.char ':' :: layout) => do
            let (height, rest) ← readPieces read raw fuel (depth + 1) layout
            return (max e.height (height + 1) + 1, rest)
          | some (.char '}' :: rest) => return (e.height + 1, rest)
          | _ => .error .whole

end

/-- How high the tree of a formatted text is. -/
def height (read : FieldReader) (raw : Bool) (body : Text) : Except Flaw Nat := do
  let (height, _) ← readPieces read raw (2 * body.length + 3) 0 body
  return height + 1

/-! ### Quoted texts side by side -/

/-- The tree of quoted texts side by side, of which either all or none are bytes. The reader of fields
    is told in which of them a field stands. -/
def joined (read : Nat → FieldReader) : Option Bool → Nat → Nat → List Quotation → Except Flaw Tree
  | _, highest, _, [] => .ok (.foreign highest .plain)
  | bytes, highest, index, q :: qs =>
    if !q.isSound then .error (.single index)
    else if bytes.any (· ≠ q.bytes) then .error .whole
    else if q.format then do
      let h ← height (read index) q.raw q.body
      joined read (some q.bytes) (max highest h) (index + 1) qs
    else joined read (some q.bytes) highest (index + 1) qs

end LineScript.Arithmetic.Grammar.Formatted
