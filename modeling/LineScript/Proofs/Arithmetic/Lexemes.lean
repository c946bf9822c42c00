import LineScript.Arithmetic.Token
import Mathlib.Data.List.Basic

/-! What the lexer can do at a place in a text: pass a gap, cut off a token, or give up. All that is true of its
    lexemes follows from that by induction, whatever brackets and lines it is in. -/

namespace LineScript.Arithmetic

variable {t u rest : Text} {token : Token} {ls : List Lexeme} {fuel : Nat}

/-- The text goes on as another behind one gap: a blank, a line end, a comment, or a line end that is taken back. -/
inductive Skips : Text → Text → Prop where
  | blank {c : CodePoint} {t : Text} (hc : c ∈ ([' ', '\t', '\x0c', '\n'] : Text)) : Skips (c :: t) t
  | comment {t : Text} : Skips ('#' :: t) (afterComment t)
  | continued {t : Text} : Skips ('\\' :: '\n' :: t) t

/-- The text begins with the token, and goes on with the rest. -/
inductive Begins : Token → Text → Text → Prop where
  | number {n : Numeral} {t rest : Text} (h : number? t = some (n, rest)) : Begins n.token t rest
  | quotation {q : Quotation} {t rest : Text} : Begins (.quotation q) t rest
  | word {w rest : Text} : Begins (wordToken w) (w ++ rest) rest
  | opening {c closing : CodePoint} {rest : Text} (h : closingOf? c = some closing) :
    Begins (bracketToken c) (c :: rest) rest
  | closing {c : CodePoint} {rest : Text} (h : isClosing c = true) : Begins (bracketToken c) (c :: rest) rest
  | sign {c : CodePoint} {rest : Text} {token : Token} {width : Nat} (hopening : closingOf? c = none)
    (hclosing : isClosing c = false) (h : Arithmetic.sign (c :: rest) = (token, width)) :
    Begins token (c :: rest) (rest.drop (width - 1))

/-- Lexemes that the lexer can make of a text. -/
inductive Lexed : Text → List Lexeme → Prop where
  | unread {t u : Text} : Lexed t (unread u)
  | lineEnd {t u : Text} {ls : List Lexeme} (h : ∀ l ∈ ls, l.token = .broken) : Lexed t (⟨.lineEnd, u, u⟩ :: ls)
  | done : Lexed [] []
  | skip {t u : Text} {ls : List Lexeme} (h : Skips t u) (hu : Lexed u ls) : Lexed t ls
  | token {token : Token} {t rest : Text} {ls : List Lexeme} (h : Begins token t rest) (hrest : Lexed rest ls) :
    Lexed t (⟨token, t, rest⟩ :: ls)

/-- The indentation of a line is made of gaps. -/
theorem lexed_of_indentation? {column kept width : Nat} (h : indentation? column kept t = some (width, u))
    (hu : Lexed u ls) : Lexed t ls := by
  fun_induction indentation? column kept t with
  | case1 =>
    cases h
    exact hu
  | case2 column kept rest ih => exact .skip (.blank (by decide)) (ih h)
  | case3 column kept rest ih => exact .skip (.blank (by decide)) (ih h)
  | case4 column kept rest ih => exact .skip (.blank (by decide)) (ih h)
  | case5 => cases h
  | case6 column kept more hmore ih => exact .skip .continued (ih h)
  | case7 => cases h
  | case8 =>
    cases h
    exact hu

/-- What the lexer makes with so much fuel. -/
structure Lexes (fuel : Nat) : Prop where
  line : ∀ ended t, Lexed t (lexLine fuel ended t)
  inside : ∀ awaited t, Lexed t (lex fuel awaited t)

/-! ### What a place begins with -/

section Kinds

variable {c : CodePoint} (h : Lexes fuel) (awaited : List CodePoint)
include h

theorem Lexes.blank (hc : c = ' ' ∨ c = '\t' ∨ c = '\x0c') : Lexed (c :: rest) (lex fuel awaited rest) := by
  refine .skip (.blank ?_) (h.inside _ _)
  rcases hc with rfl | rfl | rfl <;> decide

theorem Lexes.comment : Lexed ('#' :: rest) (lex fuel awaited (afterComment rest)) := .skip .comment (h.inside _ _)

theorem Lexes.feed :
    Lexed ('\n' :: rest) (if awaited.isEmpty then lexLine fuel true rest else lex fuel awaited rest) := by
  split
  · exact .skip (.blank (by decide)) (h.line _ _)
  · exact .skip (.blank (by decide)) (h.inside _ _)

theorem Lexes.backslash : Lexed ('\\' :: rest) (match rest with
    | .char '\n' :: more => if more.isEmpty then unread ('\\' :: rest) else lex fuel awaited more
    | _ => unread ('\\' :: rest)) := by
  split
  · split
    · exact .unread
    · exact .skip .continued (h.inside _ _)
  · exact .unread

theorem Lexes.number (t : Text) : Lexed t (match number? t with
    | none => unread t
    | some (n, rest) => ⟨n.token, t, rest⟩ :: lex fuel awaited rest) := by
  split
  · exact .unread
  · next hnumber => exact .token (.number hnumber) (h.inside _ _)

theorem Lexes.quotation (t : Text) (result : Option (Quotation × Text)) : Lexed t (match result with
    | none => unread t
    | some (q, rest) => ⟨.quotation q, t, rest⟩ :: lex fuel awaited rest) := by
  split
  · exact .unread
  · exact .token .quotation (h.inside _ _)

/-- A word goes as far as there are characters that can stand in one. -/
theorem Lexes.word (c : CodePoint) (rest : Text) : Lexed (c :: rest)
    (match wordToken (c :: rest.takeWhile namelike) with
    | .broken => unread (c :: rest)
    | w => ⟨w, c :: rest, rest.dropWhile namelike⟩ :: lex fuel awaited (rest.dropWhile namelike)) := by
  have hwhole : c :: rest = (c :: rest.takeWhile namelike) ++ rest.dropWhile namelike := by
    rw [List.cons_append, List.takeWhile_append_dropWhile]
  have hword : Begins (wordToken (c :: rest.takeWhile namelike)) (c :: rest) (rest.dropWhile namelike) := by
    rw [hwhole]
    exact .word
  split
  · exact .unread
  · exact .token hword (h.inside _ _)

theorem Lexes.opening {closing : CodePoint} (hopening : closingOf? c = some closing) :
    Lexed (c :: rest) (if maxOpen ≤ awaited.length then unread (c :: rest)
      else ⟨bracketToken c, c :: rest, rest⟩ :: lex fuel (closing :: awaited) rest) := by
  split
  · exact .unread
  · exact .token (.opening hopening) (h.inside _ _)

theorem Lexes.closing (hclosing : isClosing c = true) :
    Lexed (c :: rest) (if awaited.head? = some c then ⟨bracketToken c, c :: rest, rest⟩ :: lex fuel awaited.tail rest
      else unread (c :: rest)) := by
  split
  · exact .token (.closing hclosing) (h.inside _ _)
  · exact .unread

theorem Lexes.sign (hopening : closingOf? c = none) (hclosing : isClosing c = false) :
    Lexed (c :: rest) (match Arithmetic.sign (c :: rest) with
      | (.broken, _) => unread (c :: rest)
      | (s, width) => ⟨s, c :: rest, rest.drop (width - 1)⟩ :: lex fuel awaited (rest.drop (width - 1))) := by
  split
  · exact .unread
  · next hsign => exact .token (.sign hopening hclosing hsign) (h.inside _ _)

end Kinds

/-! ### The lexer -/

theorem Lexes.lexLine (h : Lexes fuel) (ended : Bool) (t : Text) : Lexed t (lexLine (fuel + 1) ended t) := by
  rw [lexLine.eq_def]
  dsimp only
  split
  · exact .unread
  · next hindentation => exact lexed_of_indentation? hindentation .done
  · next column c rest hindentation =>
    refine lexed_of_indentation? hindentation ?_
    split
    · next hc =>
      subst hc
      exact .skip .comment (h.line _ _)
    split
    · next hc =>
      subst hc
      exact .skip (.blank (by decide)) (h.line _ _)
    split
    · exact .lineEnd (List.forall_mem_nil _)
    split
    · split
      · exact .lineEnd (List.forall_mem_singleton.mpr rfl)
      · exact .lineEnd (List.forall_mem_nil _)
    · exact h.inside _ _

theorem Lexes.lex (h : Lexes fuel) (awaited : List CodePoint) (t : Text) : Lexed t (lex (fuel + 1) awaited t) := by
  cases t with
  | nil =>
    rw [Arithmetic.lex]
    split
    · exact .done
    · exact .unread
  | cons c rest =>
    rw [lex.eq_def]
    dsimp only
    split
    · next hc => exact h.blank awaited hc
    split
    · next hc => exact hc ▸ h.comment awaited
    split
    · next hc => exact hc ▸ h.feed awaited
    split
    · next hc => exact hc ▸ h.backslash awaited
    split
    · exact h.number awaited (c :: rest)
    split
    · exact h.quotation awaited (c :: rest) _
    split
    · exact h.word awaited c rest
    split
    · next hopening => exact h.opening awaited hopening
    · next hopening =>
      split
      · next hclosing => exact h.closing awaited hclosing
      · next hclosing => exact h.sign awaited hopening (Bool.not_eq_true _ ▸ hclosing)

theorem lexes (fuel : Nat) : Lexes fuel := by
  induction fuel with
  | zero =>
    constructor
    · intro ended t
      rw [lexLine]
      exact .unread
    · intro awaited t
      rw [lex]
      exact .unread
  | succ fuel ih => exact ⟨ih.lexLine, ih.lex⟩

theorem lexed_lexemes (t : Text) : Lexed t (lexemes t) := (lexes _).line false t

end LineScript.Arithmetic
