import LineScript.Proofs.Arithmetic.Layout
import LineScript.Proofs.Text.Alphabet
import LineScript.Proofs.Text.Names
import Mathlib.Data.List.TakeWhile

/-! A layout is cut into its tokens. What follows an operand in it, a gap, a mark or a closing bracket, cannot
    lengthen the operand, and nothing after a mark makes a longer sign of it. -/

namespace LineScript.Arithmetic

/-! ### Characters -/

theorem namelike_of_isDigit {c : CodePoint} (hc : c.isDigit = true) : namelike c = true := by
  rw [namelike, hc]
  rfl

/-- The code points of ASCII that stand in no name. -/
def otherRanges : List (Nat × Nat) := [(0, 47), (58, 64), (91, 94), (96, 96), (123, 127)]

theorem namelike_of_continuesName {c : CodePoint} (hc : Text.continuesName c = true) : namelike c = true := by
  have low : ∀ n < 128, Text.inRanges otherRanges (.char (Char.ofNat n)) = false →
      namelike (.char (Char.ofNat n)) = true := by
    decide +kernel
  have hnot := Text.continuesName_apart (s := otherRanges) (by decide +kernel) hc
  by_cases hhigh : 128 ≤ c.toNat
  · simp [namelike, hhigh]
  · cases c with
    | surrogate k => exact absurd (Nat.le_trans (by decide) (Nat.le_add_right 0xD800 k.val)) hhigh
    | char c =>
      rw [← Char.ofNat_toNat c] at hnot ⊢
      exact low c.toNat (Nat.lt_of_not_le hhigh) hnot

/-- What can stand in a name is told from what cannot. -/
theorem ne_of_namelike {c d : CodePoint} (hc : namelike c = true) (hd : namelike d = false) : c ≠ d := by
  rintro rfl
  rw [hc] at hd
  cases hd

theorem isQuote_of_namelike {c : CodePoint} (hc : namelike c = true) : isQuote c = false := by
  have hdouble := ne_of_namelike hc (d := .char '"') rfl
  have hsingle := ne_of_namelike hc (d := .char '\'') rfl
  rw [isQuote, decide_eq_false hdouble, Bool.false_or, decide_eq_false_iff_not]
  intro hnat
  cases c with
  | surrogate k =>
    have hk : (CodePoint.surrogate k).toNat = 0xD800 + k.val := rfl
    omega
  | char c => exact hsingle (congrArg CodePoint.char (Char.toNat_inj.mp hnat))

/-- What can stand in a name begins no gap. -/
theorem no_gap {c : CodePoint} (hc : namelike c = true) :
    ¬(c = .char ' ' ∨ c = .char '\t' ∨ c = .char '\x0c') ∧ c ≠ .char '#' ∧ c ≠ .char '\n' ∧ c ≠ .char '\\' := by
  refine ⟨?_, ne_of_namelike hc rfl, ne_of_namelike hc rfl, ne_of_namelike hc rfl⟩
  rintro (rfl | rfl | rfl) <;> cases hc

/-! ### Cutting -/

/-- Where `rest` follows, `t` is cut into `ts`; the brackets `before` are open at its start, `behind` at its
    end. No more fuel is spent on it than it has characters. -/
def Cut (before : List CodePoint) (t rest : Text) (ts : List Token) (behind : List CodePoint) : Prop :=
  ∃ k ≤ t.length, ∀ fuel, (lex (fuel + k) before (t ++ rest)).map Lexeme.token =
    ts ++ (lex fuel behind rest).map Lexeme.token

/-- The text has no quotes in it. -/
def Unquoted (t : Text) : Prop := Text.Over (isQuote · = false) t

variable {before behind closed : List CodePoint} {t u rest : Text} {ts us : List Token} {c : CodePoint}

theorem Cut.append (ht : Cut before t (u ++ rest) ts behind) (hu : Cut behind u rest us closed) :
    Cut before (t ++ u) rest (ts ++ us) closed := by
  obtain ⟨k, hk, ht⟩ := ht
  obtain ⟨l, hl, hu⟩ := hu
  refine ⟨l + k, by rw [List.length_append]; omega, fun fuel => ?_⟩
  rw [← Nat.add_assoc, List.append_assoc, ht, hu, List.append_assoc]

theorem openQuotation?_none (h : Unquoted t) : openQuotation? t = none := by
  have htake : (t.take 3).takeWhile (fun c => !isQuote c) = t.take 3 := by
    rw [List.takeWhile_eq_self_iff]
    intro c hc
    rw [h c (List.mem_of_mem_take hc)]
    rfl
  unfold openQuotation?
  simp only [htake]
  split
  · next quote rest hdrop =>
    have hquote : isQuote quote = false := h quote (List.mem_of_mem_drop (hdrop ▸ List.mem_cons_self))
    rw [hquote]
    rfl
  · rfl

/-- A token is cut off in one step. -/
theorem cut_of_lex {token : Token} (ht : t ≠ [])
    (h : ∀ fuel, ∃ start, lex (fuel + 1) before (t ++ rest) = ⟨token, start, rest⟩ :: lex fuel behind rest) :
    Cut before t rest [token] behind := by
  refine ⟨1, List.length_pos_of_ne_nil ht, fun fuel => ?_⟩
  obtain ⟨start, h⟩ := h fuel
  rw [h]
  rfl

theorem cut_space (s : Space) : Cut before [s.point] rest [] before := by
  refine ⟨1, Nat.le_refl 1, fun fuel => ?_⟩
  have hblank : s.point = .char ' ' ∨ s.point = .char '\t' ∨ s.point = .char '\x0c' := by
    cases s <;> decide
  rw [List.singleton_append, lex.eq_def]
  dsimp only
  rw [if_pos hblank]
  rfl

theorem cut_gap (gap : List Space) : Cut before (gapText gap) rest [] before := by
  induction gap with
  | nil => exact ⟨0, Nat.le_refl 0, fun _ => rfl⟩
  | cons s gap ih => exact (cut_space s).append ih

/-- What would make a longer sign of a mark before it. -/
def signTails : Text := ['=', '>', '*', '/']

theorem longSigns_none (op : Operation) (h : ∀ c ∈ rest.head?, c ∉ signTails) :
    (longSigns.find? fun s => s.isPrefixOf (op.mark :: rest)) = none := by
  cases rest with
  | nil => cases op <;> decide
  | cons c rest =>
    have hc := h c rfl
    simp only [signTails, List.mem_cons, List.not_mem_nil, or_false, not_or] at hc
    obtain ⟨hequals, hgreater, hstar, hslash⟩ := hc
    cases op <;> simp [longSigns, Operation.mark, String.toText, Text.ofChars, List.isPrefixOf, Ne.symm hequals,
      Ne.symm hgreater, Ne.symm hstar, Ne.symm hslash]

theorem cut_mark (op : Operation) (hrest : Unquoted rest) (h : ∀ c ∈ rest.head?, c ∉ signTails) :
    Cut before [op.mark] rest [op.token] before := by
  refine cut_of_lex (List.cons_ne_nil _ _) fun fuel => ⟨op.mark :: rest, ?_⟩
  have hquote : openQuotation? (op.mark :: rest) = none :=
    openQuotation?_none (Text.over_cons.mpr ⟨by cases op <;> decide, hrest⟩)
  have hsign : sign (op.mark :: rest) = (op.token, 1) := by
    rw [sign, longSigns_none op h]
    cases op <;> rfl
  rw [List.singleton_append, lex.eq_def]
  dsimp only
  rw [hquote, hsign]
  cases op <;> rfl

theorem cut_opening (hrest : Unquoted rest) (h : before.length < 200) :
    Cut before [.char '('] rest [.opening] (.char ')' :: before) := by
  refine cut_of_lex (List.cons_ne_nil _ _) fun fuel => ⟨.char '(' :: rest, ?_⟩
  have hquote : openQuotation? (.char '(' :: rest) = none :=
    openQuotation?_none (Text.over_cons.mpr ⟨by decide, hrest⟩)
  have hopen : ¬maxOpen ≤ before.length := Nat.not_le.mpr h
  rw [List.singleton_append, lex.eq_def]
  dsimp only
  rw [hquote]
  exact if_neg hopen

theorem cut_closing (hrest : Unquoted rest) : Cut (.char ')' :: before) [.char ')'] rest [.closing] before := by
  refine cut_of_lex (List.cons_ne_nil _ _) fun fuel => ⟨.char ')' :: rest, ?_⟩
  have hquote : openQuotation? (.char ')' :: rest) = none :=
    openQuotation?_none (Text.over_cons.mpr ⟨by decide, hrest⟩)
  rw [List.singleton_append, lex.eq_def]
  dsimp only
  rw [hquote]
  rfl

/-! ### Operands -/

/-- What comes right behind an operand: a gap, a closing bracket or a mark. -/
def behindOperand : Text := [' ', '\t', ')', '+', '-', '*', '/']

/-- A text that can stand behind an operand. -/
structure Follows (rest : Text) : Prop where
  head : ∀ c ∈ rest.head?, c ∈ behindOperand
  unquoted : Unquoted rest

theorem not_follows {c : CodePoint} {more : Text} (hc : c ∉ behindOperand) : ¬Follows (c :: more) := fun h =>
  hc (h.head c rfl)

theorem Follows.apart (h : Follows rest) : ∀ c ∈ rest.head?, namelike c = false ∧ c ≠ .char '.' := by
  intro c hc
  have hall : ∀ d ∈ behindOperand, namelike d = false ∧ d ≠ .char '.' := by decide
  exact hall c (h.head c hc)

theorem Follows.takeWhile (h : Follows rest) {t : Text} (ht : ∀ c ∈ t, namelike c = true) :
    (t ++ rest).takeWhile namelike = t := by
  rw [List.takeWhile_append_of_pos ht]
  cases rest with
  | nil => exact List.append_nil t
  | cons c rest => rw [List.takeWhile_cons_of_neg (by simp [(h.apart c rfl).1]), List.append_nil]

theorem Follows.dropWhile (h : Follows rest) {t : Text} (ht : ∀ c ∈ t, namelike c = true) :
    (t ++ rest).dropWhile namelike = rest := by
  rw [List.dropWhile_append_of_pos ht]
  cases rest with
  | nil => rfl
  | cons c rest => rw [List.dropWhile_cons_of_neg (by simp [(h.apart c rfl).1])]

/-- An identifier is a first character and others that continue it. -/
theorem isIdentifier_cases {x : Text} (h : Text.isIdentifier x = true) :
    ∃ c tail, x = c :: tail ∧ Text.startsName c = true ∧ ∀ d ∈ x, Text.continuesName d = true := by
  cases x with
  | nil => cases h
  | cons c tail =>
    obtain ⟨hc, htail⟩ := Bool.and_eq_true_iff.mp h
    refine ⟨c, tail, rfl, hc, List.forall_mem_cons.mpr ⟨?_, List.all_eq_true.mp htail⟩⟩
    rw [Text.continuesName, hc]
    rfl

theorem wordToken_name {x : Text} (h : Text.isIdentifier x = true) (hx : x ∉ reserved) : wordToken x = .name x := by
  have hnot : reserved.contains x = false := by simpa using hx
  rw [wordToken, hnot, h]
  rfl

theorem cut_name {x : Text} (h : Text.isIdentifier x = true) (hx : x ∉ reserved) (hrest : Follows rest) :
    Cut before x rest [.name x] before := by
  obtain ⟨c, tail, rfl, hstart, hcontinue⟩ := isIdentifier_cases h
  have hname : ∀ d ∈ c :: tail, namelike d = true := fun d hd => namelike_of_continuesName (hcontinue d hd)
  obtain ⟨hc, htail⟩ := List.forall_mem_cons.mp hname
  refine cut_of_lex (List.cons_ne_nil _ _) fun fuel => ⟨c :: tail ++ rest, ?_⟩
  have hunquoted : Unquoted (c :: tail ++ rest) :=
    Text.over_append.mpr ⟨fun d hd => isQuote_of_namelike (hname d hd), hrest.unquoted⟩
  obtain ⟨hblank, hcomment, hline, hslash⟩ := no_gap hc
  have hpoint := ne_of_namelike hc (d := .char '.') rfl
  rw [List.cons_append] at hunquoted ⊢
  rw [lex.eq_def]
  dsimp only
  rw [if_neg hblank, if_neg hcomment, if_neg hline, if_neg hslash,
    if_neg (by simp [Text.isDigit_of_startsName hstart, hpoint]), openQuotation?_none hunquoted, if_pos hc,
    hrest.takeWhile htail, hrest.dropWhile htail, wordToken_name h hx]

theorem digitRun?_append {digits : Text} (hd : ∀ c ∈ digits, c.isDigit = true)
    (hrest : ∀ c ∈ rest.head?, c.isDigit = false ∧ c ≠ .char '_') :
    Decimal.digitRun? CodePoint.isDigit (digits ++ rest) = some (digits, rest) := by
  induction digits with
  | nil =>
    cases rest with
    | nil => rfl
    | cons c rest =>
      obtain ⟨hdigit, hline⟩ := hrest c rfl
      simp [Decimal.digitRun?, hdigit, hline]
  | cons c digits ih =>
    obtain ⟨hc, hd⟩ := List.forall_mem_cons.mp hd
    rw [List.cons_append, Decimal.digitRun?.eq_def]
    dsimp only
    rw [if_pos hc, ih hd]
    rfl

/-- What stands behind an operand goes on with no part of a number. -/
theorem Follows.ends (h : Follows rest) : (∀ c ∈ rest.head?, c.isDigit = false ∧ c ≠ .char '_') ∧
    exponentPart? rest = some (none, rest) ∧ endsNumber rest = true := by
  cases rest with
  | nil => exact ⟨fun c hc => (Option.not_mem_none c hc).elim, rfl, rfl⟩
  | cons c rest =>
    have hall : ∀ d ∈ behindOperand, (d.isDigit = false ∧ d ≠ .char '_') ∧ ¬(d = .char 'e' ∨ d = .char 'E') ∧
        namelike d = false := by decide
    obtain ⟨hdigit, hmark, hname⟩ := hall c (h.head c rfl)
    refine ⟨fun d hd => Option.mem_some.mp hd ▸ hdigit, ?_, ?_⟩
    · rw [exponentPart?, if_neg fun hboth => hmark hboth.1]
    · rw [endsNumber, hname]
      rfl

theorem decimal?_ofNat (n : Nat) (hn : (Text.ofNat n).length ≤ 4300) (h : Follows rest) :
    decimal? (Text.ofNat n ++ rest) = some (.number (.integer n), rest) := by
  have hdigits := fun c => Text.isDigit_of_mem_ofNat (n := n) (c := c)
  obtain ⟨hplain, hexponent, -⟩ := h.ends
  have hrun : Decimal.decimalRun? (Text.ofNat n ++ rest) = some (Text.ofNat n, rest) := by
    obtain ⟨d, tail, hd⟩ := List.exists_cons_of_ne_nil (Text.ofNat_ne_nil n)
    rw [← digitRun?_append hdigits hplain, hd, List.cons_append, Decimal.decimalRun?,
      if_pos (hdigits d (hd ▸ List.mem_cons_self))]
  have hnat := Decimal.natural_ofNat n
  unfold decimal?
  rw [hrun]
  simp only [Option.bind_eq_bind, Option.bind_some]
  -- Neither a fraction nor the mark of an imaginary number can stand behind an operand.
  split
  · exact absurd h (not_follows (by decide))
  simp only [Option.bind_some, hexponent]
  split
  · exact absurd h (not_follows (by decide))
  · exact absurd h (not_follows (by decide))
  rcases Text.ofNat_cases n with hzero | ⟨d, tail, hd, -, hne⟩
  · rw [hzero] at hnat ⊢
    rw [← hnat]
    rfl
  · have hshort : ¬Decimal.maxDigits < (Text.ofNat n).length := Nat.not_lt.mpr hn
    rw [if_neg hshort, hnat, hd, if_neg (by simp [hne]), if_neg (by simp [hne])]
    rfl

theorem number?_ofNat (n : Nat) (hn : (Text.ofNat n).length ≤ 4300) (h : Follows rest) :
    number? (Text.ofNat n ++ rest) = some (.number (.integer n), rest) := by
  have hdecimal := decimal?_ofNat n hn h
  obtain ⟨-, -, hends⟩ := h.ends
  unfold number?
  split
  · next c more heq =>
    have hbase : base? c = none := by
      rcases Text.ofNat_cases n with hzero | ⟨d, tail, hd, -, hne⟩
      · rw [hzero] at heq
        obtain rfl := (List.cons.inj heq).2
        have hall : ∀ d ∈ behindOperand, base? d = none := by decide
        exact hall c (h.head c rfl)
      · rw [hd] at heq
        exact absurd (List.cons.inj heq).1 hne
    rw [hbase, hdecimal]
    exact if_pos hends
  · rw [hdecimal]
    exact if_pos hends

theorem cut_number (n : Nat) (hn : (Text.ofNat n).length ≤ 4300) (hrest : Follows rest) :
    Cut before (Text.ofNat n) rest [.number (.integer n)] before := by
  obtain ⟨c, tail, hcons⟩ := List.exists_cons_of_ne_nil (Text.ofNat_ne_nil n)
  have hdigit : c.isDigit = true := Text.isDigit_of_mem_ofNat (hcons ▸ List.mem_cons_self)
  obtain ⟨hblank, hcomment, hline, hslash⟩ := no_gap (namelike_of_isDigit hdigit)
  have hnumber := number?_ofNat n hn hrest
  refine cut_of_lex (Text.ofNat_ne_nil n) fun fuel => ⟨Text.ofNat n ++ rest, ?_⟩
  rw [hcons, List.cons_append] at hnumber ⊢
  rw [lex.eq_def]
  dsimp only
  rw [if_neg hblank, if_neg hcomment, if_neg hline, if_neg hslash, if_pos (Or.inl hdigit), hnumber]
  rfl

/-! ### Layouts -/

theorem over_gapText {P : CodePoint → Prop} (hblank : P (.char ' ')) (htab : P (.char '\t')) (gap : List Space) :
    Text.Over P (gapText gap) := by
  intro c hc
  obtain ⟨s, -, rfl⟩ := List.mem_map.mp hc
  cases s with
  | blank => exact hblank
  | tab => exact htab

theorem unquoted_gap (gap : List Space) : Unquoted (gapText gap) := over_gapText (by decide) (by decide) gap

/-- What stands in a layout beside names and numbers. -/
def punctuation : Text := [' ', '\t', '+', '-', '*', '/', '(', ')']

/-- What a layout begins with, if not with a name or a number. -/
def openings : Text := ['+', '-', '(']

/-- A code point that stands in a layout. -/
def Written (c : CodePoint) : Prop := Text.continuesName c = true ∨ c ∈ punctuation

/-- A code point that a layout begins with. -/
def Starts (c : CodePoint) : Prop := Text.continuesName c = true ∨ c ∈ openings

theorem no_gap_of_starts {c : CodePoint} (hc : Starts c) :
    ¬(c = .char ' ' ∨ c = .char '\t' ∨ c = .char '\x0c') ∧ c ≠ .char '#' ∧ c ≠ .char '\n' ∧ c ≠ .char '\\' := by
  rcases hc with hname | hmark
  · exact no_gap (namelike_of_continuesName hname)
  · have hall : ∀ d ∈ openings,
        ¬(d = .char ' ' ∨ d = .char '\t' ∨ d = .char '\x0c') ∧ d ≠ .char '#' ∧ d ≠ .char '\n' ∧ d ≠ .char '\\' := by
      decide
    exact hall c hmark

theorem continuesName_of_mem_ofNat {n : Nat} {c : CodePoint} (hc : c ∈ Text.ofNat n) : Text.continuesName c = true :=
  Text.continuesName_of_isDigit (Text.isDigit_of_mem_ofNat hc)

theorem continuesName_of_mem {x : Text} (hx : Text.isIdentifier x = true) {c : CodePoint} (hc : c ∈ x) :
    Text.continuesName c = true := by
  obtain ⟨_, _, -, -, hall⟩ := isIdentifier_cases hx
  exact hall c hc

namespace Layout

variable {w : Layout}

theorem over_text (hw : w.formula.Spelled) : Text.Over Written w.text := by
  have gap := over_gapText (P := Written) (Or.inr (by decide)) (Or.inr (by decide))
  have mark (op : Operation) : Written op.mark := Or.inr (by cases op <;> decide)
  induction w with
  | literal n => exact fun c hc => Or.inl (continuesName_of_mem_ofNat hc)
  | name x => exact fun c hc => Or.inl (continuesName_of_mem (hw.names x List.mem_cons_self).1 hc)
  | signed negative g e ih => exact Text.over_cons.mpr ⟨mark _, (gap g).append (ih ⟨hw.literals, hw.names⟩)⟩
  | joined op l before after r ihl ihr =>
    obtain ⟨hl, hr⟩ := hw.joined
    exact (ihl hl).append ((gap before).append (Text.over_cons.mpr ⟨mark op, (gap after).append (ihr hr)⟩))
  | bracketed before e after ih =>
    have hclosing : Text.Over Written [.char ')'] := Text.over_cons.mpr ⟨Or.inr (by decide), Text.over_nil⟩
    exact Text.over_cons.mpr
      ⟨Or.inr (by decide), (gap before).append ((ih hw).append ((gap after).append hclosing))⟩

theorem unquoted_text (hw : w.formula.Spelled) : Unquoted w.text := by
  intro c hc
  rcases over_text hw c hc with hname | hmark
  · exact isQuote_of_namelike (namelike_of_continuesName hname)
  · have hall : ∀ d ∈ punctuation, isQuote d = false := by decide
    exact hall c hmark

theorem head_text (hw : w.formula.Spelled) : ∃ c tail, w.text = c :: tail ∧ Starts c := by
  induction w with
  | literal n =>
    obtain ⟨c, tail, h⟩ := List.exists_cons_of_ne_nil (Text.ofNat_ne_nil n)
    exact ⟨c, tail, h, Or.inl (continuesName_of_mem_ofNat (h ▸ List.mem_cons_self))⟩
  | name x =>
    have hx := (hw.names x List.mem_cons_self).1
    obtain ⟨c, tail, h, -⟩ := isIdentifier_cases hx
    exact ⟨c, tail, h, Or.inl (continuesName_of_mem hx (h ▸ List.mem_cons_self))⟩
  | signed negative gap e ih => exact ⟨_, _, rfl, Or.inr (by cases negative <;> decide)⟩
  | joined op l before after r ihl ihr =>
    obtain ⟨c, tail, h, hc⟩ := ihl hw.joined.1
    exact ⟨c, _, by rw [text, h, List.cons_append], hc⟩
  | bracketed before e after ih => exact ⟨_, _, rfl, Or.inr (by decide)⟩

/-- A layout ends with a character of an operand or with a closing bracket. -/
theorem getLast_text (hw : w.formula.Spelled) :
    ∃ init c, w.text = init ++ [c] ∧ (Text.continuesName c = true ∨ c = .char ')') := by
  induction w with
  | literal n =>
    have h := (List.dropLast_append_getLast (Text.ofNat_ne_nil n)).symm
    exact ⟨_, _, h, Or.inl (continuesName_of_mem_ofNat (List.getLast_mem _))⟩
  | name x =>
    have hx := (hw.names x List.mem_cons_self).1
    obtain ⟨c, tail, h, -⟩ := isIdentifier_cases hx
    have hne : x ≠ [] := h ▸ List.cons_ne_nil c tail
    exact ⟨_, _, (List.dropLast_append_getLast hne).symm, Or.inl (continuesName_of_mem hx (List.getLast_mem hne))⟩
  | signed negative gap e ih =>
    obtain ⟨init, c, h, hc⟩ := ih ⟨hw.literals, hw.names⟩
    exact ⟨(Operation.ofSign negative).mark :: (gapText gap ++ init), c, by simp [text, h], hc⟩
  | joined op l before after r ihl ihr =>
    obtain ⟨init, c, h, hc⟩ := ihr hw.joined.2
    exact ⟨l.text ++ (gapText before ++ op.mark :: (gapText after ++ init)), c, by simp [text, h], hc⟩
  | bracketed before e after ih =>
    exact ⟨.char '(' :: (gapText before ++ (e.text ++ gapText after)), .char ')', by simp [text], Or.inr rfl⟩

/-- After a mark comes a gap or the start of an operand. -/
theorem head_after (hw : w.formula.Spelled) (gap : List Space) (rest : Text) :
    ∀ c ∈ (gapText gap ++ w.text ++ rest).head?, c ∉ signTails := by
  intro c hc
  cases gap with
  | nil =>
    obtain ⟨d, tail, h, hstart⟩ := head_text hw
    rw [gapText, List.map_nil, List.nil_append, h] at hc
    obtain rfl := Option.mem_some.mp hc
    rcases hstart with hname | hmark
    · intro hmem
      have hall : ∀ e ∈ signTails, namelike e = false := by decide
      exact ne_of_namelike (namelike_of_continuesName hname) (hall d hmem) rfl
    · have hall : ∀ e ∈ openings, e ∉ signTails := by decide
      exact hall d hmark
  | cons s gap =>
    obtain rfl := Option.mem_some.mp hc
    cases s <;> decide

/-- A gap and a mark or a closing bracket can follow an operand. -/
theorem follows_gap {c : CodePoint} (hc : c ∈ behindOperand) (hrest : Unquoted rest) (gap : List Space) :
    Follows (gapText gap ++ c :: rest) := by
  have hall : ∀ d ∈ behindOperand, isQuote d = false := by decide
  refine ⟨?_, (unquoted_gap gap).append (Text.over_cons.mpr ⟨hall c hc, hrest⟩)⟩
  intro d hd
  cases gap with
  | nil => exact Option.mem_some.mp hd ▸ hc
  | cons s gap =>
    obtain rfl := Option.mem_some.mp hd
    cases s <;> decide

/-- A layout is cut into its tokens, as long as no more than 200 brackets are open at once. -/
theorem cut (hw : w.formula.Spelled) (hopen : before.length + w.brackets ≤ 200) (hrest : Follows rest) :
    Cut before w.text rest w.tokens before := by
  induction w generalizing before rest with
  | literal n => exact cut_number n (hw.literals n List.mem_cons_self) hrest
  | name x =>
    obtain ⟨hx, hplain⟩ := hw.names x List.mem_cons_self
    exact cut_name hx hplain hrest
  | signed negative gap e ih =>
    have he : e.formula.Spelled := ⟨hw.literals, hw.names⟩
    have hafter : Unquoted (gapText gap ++ e.text ++ rest) :=
      ((unquoted_gap gap).append (unquoted_text he)).append hrest.unquoted
    exact (cut_mark _ hafter (head_after he gap rest)).append ((cut_gap gap).append (ih he hopen hrest))
  | joined op l left right r ihl ihr =>
    obtain ⟨hl, hr⟩ := hw.joined
    obtain ⟨hopenl, hopenr⟩ : before.length + l.brackets ≤ 200 ∧ before.length + r.brackets ≤ 200 := by
      rw [brackets] at hopen
      omega
    have hafter : Unquoted (gapText right ++ r.text ++ rest) :=
      ((unquoted_gap right).append (unquoted_text hr)).append hrest.unquoted
    have hfollows : Follows (gapText left ++ op.mark :: (gapText right ++ r.text) ++ rest) := by
      rw [List.append_assoc]
      exact follows_gap (by cases op <;> decide) hafter left
    have hright : Cut before (op.mark :: (gapText right ++ r.text)) rest (op.token :: r.tokens) before :=
      (cut_mark op hafter (head_after hr right rest)).append ((cut_gap right).append (ihr hr hopenr hrest))
    exact (ihl hl hopenl hfollows).append ((cut_gap left).append hright)
  | bracketed left e right ih =>
    have he : e.formula.Spelled := hw
    rw [brackets] at hopen
    have hopene : (CodePoint.char ')' :: before).length + e.brackets ≤ 200 := by
      rw [List.length_cons]
      omega
    have hfollows : Follows (gapText right ++ [.char ')'] ++ rest) := by
      rw [List.append_assoc]
      exact follows_gap (by decide) hrest.unquoted right
    have hafter : Unquoted (gapText left ++ (e.text ++ (gapText right ++ [.char ')'])) ++ rest) := by
      rw [List.append_assoc, List.append_assoc]
      exact (unquoted_gap left).append ((unquoted_text he).append hfollows.unquoted)
    exact (cut_opening hafter (by omega)).append ((cut_gap left).append
      ((ih he hopene hfollows).append ((cut_gap right).append (cut_closing hrest.unquoted))))

/-- A line that begins with an operand is neither indented nor empty. -/
theorem lexLine_start {tail : Text} (hc : Starts c) (fuel : Nat) :
    lexLine (fuel + 1) false (c :: tail) = lex fuel [] (c :: tail) := by
  obtain ⟨hblank, hcomment, hline, hslash⟩ := no_gap_of_starts hc
  obtain ⟨hspace, htab, hfeed⟩ : c ≠ .char ' ' ∧ c ≠ .char '\t' ∧ c ≠ .char '\x0c' := by
    simpa only [not_or] using hblank
  have hindent : indentation? 0 0 (c :: tail) = some (0, c :: tail) := by
    simp [indentation?, hspace, htab, hfeed, hslash]
  rw [lexLine.eq_def]
  dsimp only
  rw [hindent]
  dsimp only
  rw [if_neg hcomment, if_neg hline]
  rfl

/-- The tokens of a layout's text are those of the layout. -/
theorem tokens_text (hw : w.formula.Spelled) (hopen : w.brackets ≤ 200) : Arithmetic.tokens w.text = w.tokens := by
  have hnil : Follows [] := ⟨fun c hc => (Option.not_mem_none c hc).elim, Text.over_nil⟩
  have hwhole : Cut [] w.text [] w.tokens [] := cut hw (by simpa using hopen) hnil
  obtain ⟨k, hk, hcut⟩ := hwhole
  have hlex : (lex (w.text.length + 1) [] w.text).map Lexeme.token = w.tokens := by
    obtain ⟨fuel, hfuel⟩ := Nat.exists_eq_add_of_le hk
    have h := hcut (fuel + 1)
    rw [List.append_nil] at h
    rw [hfuel, show k + fuel + 1 = fuel + 1 + k by omega, h]
    exact List.append_nil _
  obtain ⟨c, tail, htext, hstart⟩ := head_text hw
  rw [Arithmetic.tokens, lexemes, ← hlex, htext, lexLine_start hstart]

end Layout
end LineScript.Arithmetic
