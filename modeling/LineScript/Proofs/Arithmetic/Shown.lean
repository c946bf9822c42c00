import LineScript.Proofs.Arithmetic.Marks
import LineScript.Proofs.Arithmetic.Spelling

/-! A text of arithmetic is made of its tokens, of blanks, of comments and of continued lines: where the lexer gives
    none but tokens of arithmetic, nothing else stands in the text. -/

namespace LineScript.Decimal

variable {t digits rest : Text}

theorem digitRun?_suffix {isDigit : CodePoint → Bool} (h : digitRun? isDigit t = some (digits, rest)) : rest <:+ t := by
  induction t generalizing digits with
  | nil =>
    cases h
    exact List.suffix_refl _
  | cons c t ih =>
    rw [digitRun?.eq_def] at h
    dsimp only at h
    split at h
    · obtain ⟨p, hp, heq⟩ := Option.map_eq_some_iff.mp h
      cases heq
      exact (ih hp).trans (List.suffix_cons c t)
    split at h
    · split at h
      · split at h
        · exact (ih h).trans (List.suffix_cons c _)
        · cases h
      · cases h
    · cases h
      exact List.suffix_refl _

theorem decimalRun?_suffix (h : decimalRun? t = some (digits, rest)) : rest <:+ t := by
  unfold decimalRun? at h
  split at h
  · split at h
    · exact digitRun?_suffix h
    · cases h
      exact List.suffix_refl _
  · cases h
    exact List.suffix_refl _

theorem splitSign_suffix (t : Text) : (splitSign t).2 <:+ t := by
  unfold splitSign
  split
  · exact List.suffix_cons _ _
  · exact List.suffix_cons _ _
  · exact List.suffix_refl _

theorem exponent?_suffix {n : Int} (h : exponent? t = some (n, rest)) : rest <:+ t := by
  unfold exponent? at h
  split at h
  · cases h
    exact List.suffix_refl _
  · next mark more =>
    dsimp only at h
    split at h
    · split at h
      · cases h
      · cases h
      · next hrun =>
        cases h
        exact ((decimalRun?_suffix hrun).trans (splitSign_suffix more)).trans (List.suffix_cons mark more)
    · cases h
      exact List.suffix_refl _

end LineScript.Decimal

namespace LineScript.Arithmetic

variable {store : Store} {t rest : Text} {n : Numeral} {token : Token} {ts : List Token} {ls : List Lexeme}

/-! ### Numbers -/

theorem exponentPart?_suffix {power : Option Int} (h : exponentPart? t = some (power, rest)) : rest <:+ t := by
  unfold exponentPart? at h
  split at h
  · split at h
    · obtain ⟨p, hp, heq⟩ := Option.map_eq_some_iff.mp h
      cases heq
      exact Decimal.exponent?_suffix hp
    · cases h
      exact List.suffix_refl _
  · cases h
    exact List.suffix_refl _

theorem decimal?_suffix (h : decimal? t = some (n, rest)) : rest <:+ t := by
  unfold decimal? at h
  obtain ⟨⟨whole, behindWhole⟩, hwhole, h⟩ := Option.bind_eq_some_iff.mp h
  -- behind the exponent only the mark of an imaginary number is taken
  obtain ⟨behind, p, hbehind, hp, hrest⟩ : ∃ behind p, behind <:+ behindWhole ∧ exponentPart? behind = some p ∧
      (rest = p.2 ∨ rest = p.2.tail) := by
    dsimp only at h
    split at h
    · obtain ⟨fraction, hfraction, h⟩ := Option.bind_eq_some_iff.mp h
      obtain ⟨q, hq, rfl⟩ := Option.map_eq_some_iff.mp hfraction
      obtain ⟨p, hp, h⟩ := Option.bind_eq_some_iff.mp h
      exact ⟨q.2, p, (Decimal.decimalRun?_suffix hq).trans (List.suffix_cons _ _), hp, by grind⟩
    · obtain ⟨fraction, hfraction, h⟩ := Option.bind_eq_some_iff.mp h
      cases hfraction
      obtain ⟨p, hp, h⟩ := Option.bind_eq_some_iff.mp h
      exact ⟨behindWhole, p, List.suffix_refl _, hp, by grind⟩
  have hbefore := ((exponentPart?_suffix hp).trans hbehind).trans (Decimal.decimalRun?_suffix hwhole)
  rcases hrest with rfl | rfl
  · exact hbefore
  · exact (List.tail_suffix p.2).trans hbefore

theorem based?_suffix {base : Nat} (h : based? base t = some (n, rest)) : rest <:+ t := by
  obtain ⟨p, hp, h⟩ := Option.bind_eq_some_iff.mp h
  dsimp only at h
  split at h
  · cases h
  · cases h
    exact Decimal.digitRun?_suffix hp

theorem number?_suffix (h : number? t = some (n, rest)) : rest <:+ t := by
  have hdone : ∀ p : Numeral × Text,
      (if endsNumber p.2 then some (p.1, p.2) else none) = some (n, rest) → p = (n, rest) := by
    grind
  unfold number? at h
  split at h
  · next c more =>
    split at h
    · obtain ⟨p, hp, h⟩ := Option.bind_eq_some_iff.mp h
      obtain rfl := hdone p h
      exact (based?_suffix hp).trans ((List.suffix_cons c more).trans (List.suffix_cons _ _))
    · obtain ⟨p, hp, h⟩ := Option.bind_eq_some_iff.mp h
      obtain rfl := hdone p h
      exact decimal?_suffix hp
  · obtain ⟨p, hp, h⟩ := Option.bind_eq_some_iff.mp h
    obtain rfl := hdone p h
    exact decimal?_suffix hp

/-! ### What stands in a text -/

/-- The text shows the tokens: numbers, names and the marks of arithmetic, with nothing else in it but gaps. -/
inductive Shows : Text → List Token → Prop where
  | nothing : Shows [] []
  | gap {t u : Text} {ts : List Token} (h : Skips t u) (hu : Shows u ts) : Shows t ts
  | number {w t : Text} {n : Number} {ts : List Token} (hw : number? (w ++ t) = some (.number n, t)) (h : Shows t ts) :
    Shows (w ++ t) (.number n :: ts)
  | name {w t : Text} {ts : List Token} (hw : Text.isIdentifier w = true) (hfree : w ∉ reserved) (h : Shows t ts) :
    Shows (w ++ t) (.name w :: ts)
  | mark {m : Token} {t : Text} {ts : List Token} (hm : m ∈ marks) (h : Shows t ts) : Shows (m.spelling ++ t) (m :: ts)

theorem bracketToken_mark {c : CodePoint} (h : Admitted store (bracketToken c)) :
    bracketToken c ∈ marks ∧ (bracketToken c).spelling = [c] := by
  unfold bracketToken at h ⊢
  split_ifs at h ⊢ with hopening hclosing
  · subst hopening
    decide
  · subst hclosing
    decide
  · exact h.elim

theorem signToken_mark {c : CodePoint} (h : Admitted store (signToken c)) :
    signToken c ∈ marks ∧ (signToken c).spelling = [c] := by
  unfold signToken at h ⊢
  split_ifs at h ⊢ with hplus hminus hstar hslash hcontrol
  · subst hplus
    decide
  · subst hminus
    decide
  · subst hstar
    decide
  · subst hslash
    decide
  · exact h.elim
  · exact h.elim

/-- Only a sign of one character is a mark. -/
theorem sign_mark {c : CodePoint} {width : Nat} (h : sign (c :: rest) = (token, width)) (ht : Admitted store token) :
    width = 1 ∧ token ∈ marks ∧ token.spelling = [c] := by
  unfold sign at h
  split at h
  · cases h
    exact ht.elim
  · cases h
    exact ⟨rfl, signToken_mark ht⟩

theorem Shows.of_mark {c : CodePoint} (h : token ∈ marks ∧ token.spelling = [c]) (hrest : Shows rest ts) :
    Shows (c :: rest) (token :: ts) := by
  have hshows := Shows.mark h.1 hrest
  rwa [h.2] at hshows

theorem Begins.shows (h : Begins token t rest) (ht : Admitted store token) (hrest : Shows rest ts) :
    Shows t (token :: ts) := by
  cases h with
  | @number n _ _ h =>
    obtain ⟨w, rfl⟩ := number?_suffix h
    cases n with
    | number n => exact .number h hrest
    | imaginary => exact ht.elim
    | unreadable => exact ht.elim
  | quotation => exact ht.elim
  | @word w =>
    unfold wordToken at ht ⊢
    split_ifs at ht ⊢ with hreserved hname
    · exact ht.elim
    · exact .name hname (fun hmem => hreserved (List.contains_iff_mem.mpr hmem)) hrest
    · exact ht.elim
  | opening h => exact .of_mark (bracketToken_mark ht) hrest
  | closing h => exact .of_mark (bracketToken_mark ht) hrest
  | sign hopening hclosing h =>
    obtain ⟨rfl, hmark⟩ := sign_mark h ht
    exact .of_mark hmark hrest

theorem Lexed.shows (h : Lexed t ls) (hadmitted : ∀ l ∈ ls, Admitted store l.token) : Shows t (ls.map Lexeme.token) := by
  induction h with
  | unread => exact (hadmitted _ List.mem_cons_self).elim
  | lineEnd => exact (hadmitted _ List.mem_cons_self).elim
  | done => exact .nothing
  | skip h hu ih => exact .gap h (ih hadmitted)
  | token h hrest ih =>
    obtain ⟨htoken, hadmitted⟩ := List.forall_mem_cons.mp hadmitted
    exact h.shows htoken (ih hadmitted)

/-- A text from which only tokens of arithmetic are read shows them. -/
theorem shows_tokens (h : ∀ token ∈ tokens t, Admitted store token) : Shows t (tokens t) :=
  (lexed_lexemes t).shows fun l hl => h l.token (List.mem_map_of_mem hl)

end LineScript.Arithmetic
