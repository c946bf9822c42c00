import LineScript.Text.Basic

/-! Lines. A carriage return with the line feed after it ends one line, and so does every other
    line-boundary character on its own. A boundary at the very end opens no further line. -/

namespace LineScript.Text

/-- The characters that end a line. -/
def isLineBreak (c : CodePoint) : Bool :=
  inRanges [(0x000A, 0x000D), (0x001C, 0x001E), (0x0085, 0x0085), (0x2028, 0x2029)] c

/-- The lines of a text, without their boundaries. -/
def lines : Text → List Text
  | [] => []
  | .char '\r' :: .char '\n' :: rest => [] :: lines rest
  | c :: rest =>
    if isLineBreak c then [] :: lines rest
    else match lines rest with
      | [] => [[c]]
      | line :: more => (c :: line) :: more

/-- The text with every carriage return, and the line feed after it if there is one, read as a
    single line feed. -/
def unifyBreaks : Text → Text
  | [] => []
  | .char '\r' :: .char '\n' :: rest => '\n' :: unifyBreaks rest
  | c :: rest => (if c = '\r' then '\n' else c) :: unifyBreaks rest

end LineScript.Text
