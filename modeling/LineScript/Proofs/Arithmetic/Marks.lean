import LineScript.Proofs.Arithmetic.Lexemes
import Mathlib.Tactic.SplitIfs

/-! The marks of arithmetic among the tokens of a text. A grammar asks for a sign by its spelling, and so does not
    see whether a token is a mark; but no text has another token that is spelled like one. -/

namespace LineScript.Arithmetic

/-! ### Marks -/

/-- The tokens of arithmetic that have a spelling. -/
def marks : List Token := [.plus, .minus, .star, .slash, .opening, .closing]

/-- The token is spelled like a mark only if it is that mark. -/
def Proper (t : Token) : Prop := ∀ m ∈ marks, t.spelling = m.spelling → t = m

theorem proper_of_not_mem {t : Token} (h : t.spelling ∉ marks.map Token.spelling) : Proper t :=
  fun _ hm hspelling => absurd (hspelling ▸ List.mem_map_of_mem hm) h

theorem proper_of_nil {t : Token} (h : t.spelling = []) : Proper t :=
  proper_of_not_mem (by rw [h]; decide)

theorem proper_of_mem_marks {t : Token} (h : t ∈ marks) : Proper t := by
  revert t
  unfold Proper
  decide

theorem proper_numeral (n : Numeral) : Proper n.token := by
  cases n <;> exact proper_of_nil rfl

theorem proper_wordToken (w : Text) : Proper (wordToken w) := by
  have hreserved : ∀ r ∈ reserved, r ∉ marks.map Token.spelling := by decide
  unfold wordToken
  split
  · next h => exact proper_of_not_mem (hreserved w (List.contains_iff_mem.mp h))
  · split <;> exact proper_of_nil rfl

/-- The characters that the marks are written with. -/
def markPoints : List CodePoint := ['+', '-', '*', '/', '(', ')']

theorem proper_sign {c : CodePoint} (h : c ∉ markPoints) : Proper (.sign [c]) := by
  have hspellings : marks.map Token.spelling = markPoints.map fun c => [c] := rfl
  refine proper_of_not_mem fun hmem => h ?_
  rw [hspellings] at hmem
  obtain ⟨d, hd, heq⟩ := List.mem_map.mp hmem
  rwa [(List.cons.inj heq).1] at hd

theorem proper_opening {c closing : CodePoint} (h : closingOf? c = some closing) : Proper (bracketToken c) := by
  unfold closingOf? at h
  split at h
  · next hc =>
    subst hc
    exact proper_of_mem_marks (by decide)
  split at h
  · next hc =>
    subst hc
    exact proper_sign (by decide)
  split at h
  · next hc =>
    subst hc
    exact proper_sign (by decide)
  · cases h

theorem proper_closing {c : CodePoint} (h : isClosing c = true) : Proper (bracketToken c) := by
  simp only [isClosing, Bool.or_eq_true, decide_eq_true_eq] at h
  rcases h with (rfl | rfl) | rfl
  · exact proper_of_mem_marks (by decide)
  · exact proper_sign (by decide)
  · exact proper_sign (by decide)

theorem proper_signToken {c : CodePoint} (hopening : closingOf? c = none) (hclosing : isClosing c = false) :
    Proper (signToken c) := by
  unfold signToken
  split_ifs with hplus hminus hstar hslash
  · exact proper_of_mem_marks (by decide)
  · exact proper_of_mem_marks (by decide)
  · exact proper_of_mem_marks (by decide)
  · exact proper_of_mem_marks (by decide)
  · exact proper_of_nil rfl
  · refine proper_sign fun hmem => ?_
    simp only [markPoints, List.mem_cons, List.not_mem_nil, or_false] at hmem
    rcases hmem with h | h | h | h | rfl | rfl
    · exact hplus h
    · exact hminus h
    · exact hstar h
    · exact hslash h
    · cases hopening
    · cases hclosing

theorem proper_sign_start {c : CodePoint} {rest : Text} {token : Token} {width : Nat} (hopening : closingOf? c = none)
    (hclosing : isClosing c = false) (h : sign (c :: rest) = (token, width)) : Proper token := by
  have hlong : ∀ s ∈ longSigns, s ∉ marks.map Token.spelling := by decide
  unfold sign at h
  split at h
  · next s hs =>
    cases h
    exact proper_of_not_mem (hlong s (List.mem_of_find?_eq_some hs))
  · cases h
    exact proper_signToken hopening hclosing

theorem Begins.proper {token : Token} {t rest : Text} (h : Begins token t rest) : Proper token := by
  cases h with
  | @number n => exact proper_numeral n
  | quotation => exact proper_of_nil rfl
  | @word w => exact proper_wordToken w
  | opening h => exact proper_opening h
  | closing h => exact proper_closing h
  | sign hopening hclosing h => exact proper_sign_start hopening hclosing h

theorem Lexed.proper {t : Text} {ls : List Lexeme} (h : Lexed t ls) : ∀ l ∈ ls, Proper l.token := by
  induction h with
  | unread => exact List.forall_mem_singleton.mpr (proper_of_nil rfl)
  | lineEnd h =>
    refine List.forall_mem_cons.mpr ⟨proper_of_nil rfl, fun l hl => ?_⟩
    rw [h l hl]
    exact proper_of_nil rfl
  | done => exact List.forall_mem_nil _
  | skip h hu ih => exact ih
  | token h hrest ih => exact List.forall_mem_cons.mpr ⟨h.proper, ih⟩

theorem proper_of_mem_tokens {t : Text} {token : Token} (h : token ∈ tokens t) : Proper token := by
  obtain ⟨l, hl, rfl⟩ := List.mem_map.mp h
  exact (lexed_lexemes t).proper l hl

end LineScript.Arithmetic
