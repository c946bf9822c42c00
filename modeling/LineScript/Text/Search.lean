import LineScript.Text.Basic

/-! Finding a piece of text inside another, and cutting there. -/

namespace LineScript.Text

/-- What stands before and after the first place where `piece` occurs. -/
def cut? (piece : Text) : Text → Option (Text × Text)
  | [] => if piece.isEmpty then some ([], []) else none
  | c :: rest =>
    if piece.isPrefixOf (c :: rest) then some ([], (c :: rest).drop piece.length)
    else (cut? piece rest).map fun p => (c :: p.1, p.2)

/-- Whether `piece` occurs anywhere in the text. -/
def occurs (piece t : Text) : Bool := (cut? piece t).isSome

/-- What stands before and after the last `mark`. -/
def cutLast? (mark : CodePoint) : Text → Option (Text × Text)
  | [] => none
  | c :: rest =>
    match cutLast? mark rest with
    | some p => some (c :: p.1, p.2)
    | none => if c = mark then some ([], rest) else none

/-- The text between the first `opening` and the last `closing` after it. -/
def between? (opening : Text) (closing : CodePoint) (t : Text) : Option Text :=
  (cut? opening t).bind fun p => (cutLast? closing p.2).map (·.1)

/-- The text without `ending`, when it ends so. -/
def dropEnding? (ending t : Text) : Option Text :=
  if ending.isSuffixOf t then some (t.take (t.length - ending.length)) else none

end LineScript.Text
