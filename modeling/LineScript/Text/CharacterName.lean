import LineScript.Text.Basic
import LineScript.Text.CharacterName.AToB
import LineScript.Text.CharacterName.C
import LineScript.Text.CharacterName.DToH
import LineScript.Text.CharacterName.IToL
import LineScript.Text.CharacterName.MToQ
import LineScript.Text.CharacterName.RToS
import LineScript.Text.CharacterName.TToZ

/-! The names of characters in Unicode 14, with the aliases of its table of corrections. Names are
    without regard to case, but for those that are made by a rule: the syllables of Hangul and the
    unified ideographs. -/

namespace LineScript.Text

/-! ### Tables

A table holds names in their order, one after the other. A small letter stands in front of each: `a` when
it shares nothing with the name before it, `b` when the first character is the same, and so on; what is
shared is left out. Line ends in a table mean nothing. -/

/-- A place in a table: the name so far, the last character first, and whether the wanted name came by. -/
structure TablePlace where
  name : List Char
  found : Bool

/-- Goes one character further; the wanted name has its last character first too. -/
def TablePlace.step (wanted : List Char) (p : TablePlace) (c : Char) : TablePlace :=
  if c.isLower then
    ⟨p.name.drop (p.name.length - (c.toNat - 'a'.toNat)), p.found || p.name == wanted⟩
  else if c = '\n' then p
  else { p with name := c :: p.name }

/-- Whether a table has a name. -/
def inTable (table : String) (name : List Char) : Bool :=
  let p := table.foldl (TablePlace.step name.reverse) ⟨[], false⟩
  p.found || p.name == name.reverse

/-- The table with the names that begin with a capital letter. -/
def tableFor (initial : Char) : String :=
  if initial ≤ 'B' then namesAToB
  else if initial ≤ 'C' then namesC
  else if initial ≤ 'H' then namesDToH
  else if initial ≤ 'L' then namesIToL
  else if initial ≤ 'Q' then namesMToQ
  else if initial ≤ 'S' then namesRToS
  else namesTToZ

/-! ### Names made by a rule -/

/-- The names of the consonants that a syllable begins with. -/
def leadingConsonants : List String :=
  ["G", "GG", "N", "D", "DD", "R", "M", "B", "BB", "S", "SS", "", "J", "JJ", "C", "K", "T", "P", "H"]

/-- The names of the vowels of a syllable. -/
def vowels : List String :=
  ["A", "AE", "YA", "YAE", "EO", "E", "YEO", "YE", "O", "WA", "WAE", "OE", "YO", "U", "WEO", "WE", "WI",
    "YU", "EU", "YI", "I"]

/-- The names of the consonants that a syllable ends with. -/
def trailingConsonants : List String :=
  ["", "G", "GG", "GS", "N", "NJ", "NH", "D", "L", "LG", "LM", "LB", "LS", "LT", "LP", "LH", "M", "B",
    "BS", "S", "SS", "NG", "J", "C", "K", "T", "P", "H"]

/-- What follows the longest of some beginnings of a text, if it has one of them. -/
def afterLongest? (beginnings : List String) (t : Text) : Option Text :=
  let lengths := (beginnings.filter fun b => b.toText.isPrefixOf t).map String.length
  lengths.max?.map t.drop

/-- Whether a text is the romanised name of a syllable; every part is as long as it can be. -/
def isSyllable (t : Text) : Bool :=
  let rest := (afterLongest? leadingConsonants t).bind fun t =>
    (afterLongest? vowels t).bind (afterLongest? trailingConsonants)
  rest == some []

/-- The unified ideographs. -/
def ideographRanges : List (Nat × Nat) :=
  [(0x3400, 0x4DBF), (0x4E00, 0x9FFF), (0x20000, 0x2A6DF), (0x2A700, 0x2B738), (0x2B740, 0x2B81D),
    (0x2B820, 0x2CEA1), (0x2CEB0, 0x2EBE0), (0x30000, 0x3134A)]

/-- Whether a text is the number of a unified ideograph, as four or five digits in base sixteen. -/
def isIdeographNumber (t : Text) : Bool :=
  let isHex (c : CodePoint) : Bool := c.isDigit || (decide ('A' ≤ c) && decide (c ≤ 'F'))
  let value (c : CodePoint) : Nat := if c.isDigit then c.toNat - 48 else c.toNat - 55
  (t.length = 4 || t.length = 5) && t.all isHex &&
    inRanges ideographRanges (.ofNat (t.foldl (fun n c => n * 16 + value c) 0))

/-! ### All names -/

/-- What follows a beginning of a text. -/
def after? (beginning : String) (t : Text) : Option Text :=
  if beginning.toText.isPrefixOf t then some (t.drop beginning.length) else none

/-- Whether a text is the name of a character. -/
def isCharacterName (t : Text) : Bool :=
  match after? "HANGUL SYLLABLE " t, after? "CJK UNIFIED IDEOGRAPH-" t with
  | some syllable, _ => isSyllable syllable
  | none, some number => isIdeographNumber number
  | none, none =>
    match (chars t).map Char.toUpper with
    | [] => false
    | c :: rest => inTable (tableFor c) (c :: rest)

end LineScript.Text
