import LineScript.Arithmetic.Parser
import LineScript.Proofs.Arithmetic.Layout

/-! The tokens of a layout are read as the tree of its formula, whatever stands behind them, unless an operand
    lies below the deepest level. A reader goes down by one in its fuel where it passes a token or a rank, so
    three for each token are enough. -/

namespace LineScript.Arithmetic

variable {w l r e : Layout} {fuel level : Nat} {rest : List Token} {left : Tree}

/-- No operand of the layout lies below the deepest level, when the layout stands at this one. -/
def Layout.Fits (w : Layout) (level : Nat) : Prop := level + w.descent + operandDepth ≤ maxLevel

instance (w : Layout) (level : Nat) : Decidable (w.Fits level) := inferInstanceAs (Decidable (_ ≤ _))

/-- The tokens of the layout are read as a factor. -/
def Layout.ReadsFactor (w : Layout) : Prop :=
  ∀ fuel level rest, 3 * (w.tokens ++ rest).length + 1 ≤ fuel → readFactor fuel level (w.tokens ++ rest) =
    if w.Fits level then .ok (w.formula.tree, rest) else .error .tooNested

/-- The tokens of the layout are read as a factor or as the first factors of a term. -/
def Layout.ReadsTerm (w : Layout) : Prop :=
  ∀ fuel level rest, 3 * (w.tokens ++ rest).length + 2 ≤ fuel →
    ∃ more, 3 * rest.length + 1 ≤ more ∧ readTerm fuel level (w.tokens ++ rest) =
      if w.Fits level then moreFactors more level w.formula.tree rest else .error .tooNested

/-- The tokens of the layout are read as the first terms of a sum, where no factor follows them. -/
def Layout.ReadsSum (w : Layout) : Prop :=
  ∀ fuel level rest, 3 * (w.tokens ++ rest).length + 3 ≤ fuel → (∀ t ∈ rest.head?, termOperator? t = none) →
    ∃ more, 3 * rest.length + 1 ≤ more ∧ readSum fuel level (w.tokens ++ rest) =
      if w.Fits level then moreTerms more level w.formula.tree rest else .error .tooNested

theorem spare {n k : Nat} (h : n + 1 ≤ k) : ∃ j, k = j + 1 := ⟨k - 1, by omega⟩

/-! ### Steps of the reader -/

theorem moreFactors_stop (h : ∀ t ∈ rest.head?, termOperator? t = none) :
    moreFactors (fuel + 1) level left rest = .ok (left, rest) := by
  cases rest with
  | nil => rw [moreFactors]
  | cons t rest => rw [moreFactors, h t rfl]

theorem moreTerms_stop (h : ∀ t ∈ rest.head?, sumOperator? t = none) :
    moreTerms (fuel + 1) level left rest = .ok (left, rest) := by
  cases rest with
  | nil => rw [moreTerms]
  | cons t rest => rw [moreTerms, h t rfl]

theorem readFactor_operand {t : Token} {e : Tree}
    (h : (∃ n : Nat, t = .number (.integer n) ∧ e = .number (.integer n)) ∨ ∃ x, t = .name x ∧ e = .name x) :
    readFactor (fuel + 1) level (t :: rest) =
      if level + operandDepth ≤ maxLevel then .ok (e, rest) else .error .tooNested := by
  have hlevel : (if maxLevel < level then (.error .tooNested : Except Halt (Tree × List Token))
      else if maxLevel < level + operandDepth then .error .tooNested else .ok (e, rest)) =
      if level + operandDepth ≤ maxLevel then .ok (e, rest) else .error .tooNested := by
    rw [operandDepth]
    split_ifs <;> first | rfl | omega
  rw [← hlevel]
  rcases h with ⟨n, rfl, rfl⟩ | ⟨x, rfl, rfl⟩ <;> rw [readFactor.eq_def]

theorem readFactor_sign (negative : Bool) : readFactor (fuel + 1) level ((Operation.ofSign negative).token :: rest) =
    if maxLevel < level then .error .tooNested else (do
      let (operand, rest) ← readFactor fuel (level + 1) rest
      return (.unary (if negative then .minus else .plus) operand, rest)) := by
  rw [readFactor.eq_def]
  cases negative <;> rfl

theorem readFactor_opening (h : isBroken rest = false) : readFactor (fuel + 1) level (.opening :: rest) =
    if maxLevel < level + openingDepth then .error .tooNested else (do
      match ← readSum fuel (level + insideDepth) rest with
      | (inside, .closing :: rest) => return (inside, rest)
      | _ => .error .malformed) := by
  rw [readFactor.eq_def]
  dsimp only
  rw [h]
  by_cases hlevel : maxLevel < level + openingDepth
  · rw [if_pos hlevel, if_pos hlevel, ite_self, ite_self]
  · have hoperand : ¬maxLevel < level + operandDepth := fun hover =>
      hlevel (Nat.lt_of_lt_of_le hover (Nat.add_le_add_left (by decide) level))
    have hfirst : ¬maxLevel < level := fun hover => hoperand (Nat.lt_of_lt_of_le hover (Nat.le_add_right _ _))
    rw [if_neg hlevel, if_neg hlevel, if_neg hoperand, if_neg hfirst]
    rfl

namespace Layout

/-! ### From rank to rank -/

theorem ReadsFactor.term (h : w.ReadsFactor) : w.ReadsTerm := by
  intro fuel level rest hfuel
  obtain ⟨fuel, rfl⟩ := spare hfuel
  rw [List.length_append] at hfuel
  refine ⟨fuel, by omega, ?_⟩
  rw [readTerm, h fuel level rest (by rw [List.length_append]; omega)]
  by_cases hfits : w.Fits level
  · rw [if_pos hfits, if_pos hfits]
    rfl
  · rw [if_neg hfits, if_neg hfits]
    rfl

theorem ReadsTerm.sum (h : w.ReadsTerm) : w.ReadsSum := by
  intro fuel level rest hfuel hrest
  obtain ⟨fuel, rfl⟩ := spare hfuel
  rw [List.length_append] at hfuel
  obtain ⟨more, hmore, hread⟩ := h fuel level rest (by rw [List.length_append]; omega)
  obtain ⟨more, rfl⟩ := spare hmore
  refine ⟨fuel, by omega, ?_⟩
  rw [readSum, hread]
  by_cases hfits : w.Fits level
  · rw [if_pos hfits, if_pos hfits, moreFactors_stop hrest]
    rfl
  · rw [if_neg hfits, if_neg hfits]
    rfl

/-! ### Factors -/

theorem isBroken_tokens (w : Layout) (rest : List Token) : isBroken (w.tokens ++ rest) = false := by
  induction w generalizing rest with
  | literal n => rfl
  | name x => rfl
  | signed negative gap e ih => cases negative <;> rfl
  | joined op l before after r ihl ihr =>
    rw [tokens, List.append_assoc]
    exact ihl _
  | bracketed before e after ih => rfl

theorem readsFactor_literal (n : Nat) : (literal n).ReadsFactor := by
  intro fuel level rest hfuel
  obtain ⟨fuel, rfl⟩ := spare hfuel
  exact readFactor_operand (Or.inl ⟨n, rfl, rfl⟩)

theorem readsFactor_name (x : Text) : (name x).ReadsFactor := by
  intro fuel level rest hfuel
  obtain ⟨fuel, rfl⟩ := spare hfuel
  exact readFactor_operand (Or.inr ⟨x, rfl, rfl⟩)

theorem readsFactor_signed {negative : Bool} {gap : List Space} (h : e.ReadsFactor) :
    (signed negative gap e).ReadsFactor := by
  intro fuel level rest hfuel
  obtain ⟨fuel, rfl⟩ := spare hfuel
  have hread := h fuel (level + 1) rest (by rw [tokens, List.cons_append, List.length_cons] at hfuel; omega)
  have hfits : (signed negative gap e).Fits level ↔ e.Fits (level + 1) := by
    rw [Fits, Fits, descent, Nat.add_right_comm level 1, Nat.add_assoc level _ 1]
  rw [tokens, List.cons_append, readFactor_sign, hread]
  by_cases he : e.Fits (level + 1)
  · have hlevel : ¬maxLevel < level := by
      rw [Fits] at he
      omega
    rw [if_neg hlevel, if_pos he, if_pos (hfits.mpr he)]
    rfl
  · rw [if_neg he, if_neg (mt hfits.mp he)]
    exact ite_self _

theorem readsFactor_bracketed {before after : List Space} (h : e.ReadsSum) :
    (bracketed before e after).ReadsFactor := by
  intro fuel level rest hfuel
  obtain ⟨fuel, rfl⟩ := spare hfuel
  have htokens : (bracketed before e after).tokens ++ rest = .opening :: (e.tokens ++ .closing :: rest) := by
    rw [tokens, List.cons_append, List.append_assoc, List.singleton_append]
  rw [htokens] at hfuel ⊢
  rw [List.length_cons] at hfuel
  obtain ⟨more, hmore, hread⟩ := h fuel (level + insideDepth) (.closing :: rest) (by omega) (by rintro t ⟨⟩; rfl)
  obtain ⟨more, rfl⟩ := spare hmore
  have hfits : (bracketed before e after).Fits level ↔ e.Fits (level + insideDepth) := by
    rw [Fits, Fits, descent, Nat.add_right_comm level insideDepth, Nat.add_assoc level _ insideDepth]
  rw [readFactor_opening (isBroken_tokens e _), hread, moreTerms_stop (by rintro t ⟨⟩; rfl)]
  by_cases he : e.Fits (level + insideDepth)
  · have hlevel : ¬maxLevel < level + openingDepth := by
      simp only [Fits, insideDepth, openingDepth] at he ⊢
      omega
    rw [if_neg hlevel, if_pos he, if_pos (hfits.mpr he)]
    rfl
  · rw [if_neg he, if_neg (mt hfits.mp he)]
    exact ite_self _

/-! ### Terms and sums -/

/-- A layout that an operation joins fits where both of its operands do. -/
theorem fits_joined {op : Operation} {before after : List Space} :
    (joined op l before after r).Fits level ↔ l.Fits level ∧ r.Fits level := by
  simp only [Fits, descent]
  omega

/-- What goes on behind both operands goes on behind what they make up. -/
theorem reads_joined {op : Operation} {before after : List Space} {α β : Type} {a : α} {k : α → Except Halt β} :
    (if l.Fits level then (if r.Fits level then .ok a else .error .tooNested) >>= k else .error .tooNested) =
      if (joined op l before after r).Fits level then k a else .error .tooNested := by
  by_cases hl : l.Fits level
  · by_cases hr : r.Fits level
    · rw [if_pos hl, if_pos hr, if_pos (fits_joined.mpr ⟨hl, hr⟩)]
      rfl
    · rw [if_pos hl, if_neg hr, if_neg fun h => hr (fits_joined.mp h).2]
      rfl
  · rw [if_neg hl, if_neg fun h => hl (fits_joined.mp h).1]

theorem readsTerm_joined {op : Operation} (before after : List Space) (hop : op.rank = 1) (hl : l.ReadsTerm)
    (hr : r.ReadsFactor) : (joined op l before after r).ReadsTerm := by
  intro fuel level rest hfuel
  have htokens : (joined op l before after r).tokens ++ rest = l.tokens ++ op.token :: (r.tokens ++ rest) := by
    rw [tokens, List.append_assoc, List.cons_append]
  rw [htokens] at hfuel ⊢
  obtain ⟨more, hmore, hread⟩ := hl fuel level (op.token :: (r.tokens ++ rest)) hfuel
  obtain ⟨more, rfl⟩ := spare hmore
  rw [List.length_cons] at hmore
  have hright := hr more level rest (by omega)
  have hoperator : termOperator? op.token = some op.operator := by
    cases op with
    | plus | minus => cases hop
    | times | dividedBy => rfl
  refine ⟨more, by rw [List.length_append] at hmore; omega, ?_⟩
  rw [hread, moreFactors, hoperator]
  dsimp only
  rw [hright]
  exact reads_joined

theorem readsSum_joined {op : Operation} (before after : List Space) (hop : op.rank = 0) (hl : l.ReadsSum)
    (hr : r.ReadsTerm) : (joined op l before after r).ReadsSum := by
  intro fuel level rest hfuel hrest
  have htokens : (joined op l before after r).tokens ++ rest = l.tokens ++ op.token :: (r.tokens ++ rest) := by
    rw [tokens, List.append_assoc, List.cons_append]
  have hoperator : sumOperator? op.token = some op.operator ∧ termOperator? op.token = none := by
    cases op with
    | plus | minus => exact ⟨rfl, rfl⟩
    | times | dividedBy => cases hop
  rw [htokens] at hfuel ⊢
  obtain ⟨more, hmore, hread⟩ := hl fuel level (op.token :: (r.tokens ++ rest)) hfuel (by rintro t ⟨⟩; exact hoperator.2)
  obtain ⟨more, rfl⟩ := spare hmore
  rw [List.length_cons] at hmore
  obtain ⟨again, hagain, hright⟩ := hr more level rest (by omega)
  obtain ⟨again, rfl⟩ := spare hagain
  refine ⟨more, by rw [List.length_append] at hmore; omega, ?_⟩
  rw [hread, moreTerms, hoperator.1]
  dsimp only
  rw [hright, moreFactors_stop hrest]
  exact reads_joined

/-- A layout is read in every rank that it is high enough for. -/
structure Reads (w : Layout) : Prop where
  factor : 2 ≤ w.rank → w.ReadsFactor
  term : 1 ≤ w.rank → w.ReadsTerm
  sum : w.ReadsSum

theorem ReadsFactor.reads (h : w.ReadsFactor) : w.Reads := ⟨fun _ => h, fun _ => h.term, h.term.sum⟩

theorem reads (hw : w.Grouped) : w.Reads := by
  induction w with
  | literal n => exact (readsFactor_literal n).reads
  | name x => exact (readsFactor_name x).reads
  | signed negative gap e ih =>
    obtain ⟨hrank, he⟩ := hw
    exact (readsFactor_signed ((ih he).factor hrank)).reads
  | joined op l before after r ihl ihr =>
    obtain ⟨hrankl, hrankr, hl, hr⟩ := hw
    -- A sum is no term and a term no factor, so the operation decides in which ranks the layout is read.
    have hrank : op.rank = 0 ∨ op.rank = 1 := by cases op <;> decide
    rcases hrank with hop | hop
    · have hsum := readsSum_joined before after hop (ihl hl).sum ((ihr hr).term (by omega))
      exact ⟨fun h => absurd h (by rw [rank]; omega), fun h => absurd h (by rw [rank]; omega), hsum⟩
    · have hterm := readsTerm_joined before after hop ((ihl hl).term (by omega))
        ((ihr hr).factor (by omega))
      exact ⟨fun h => absurd h (by rw [rank]; omega), fun _ => hterm, hterm.sum⟩
  | bracketed before e after ih => exact (readsFactor_bracketed (ih hw).sum).reads

/-- The tokens of a layout make up the tree of its formula, unless too much is nested in it. -/
theorem ofTokens_tokens (hw : w.Grouped) : Tree.ofTokens w.tokens =
    if w.Fits firstLevel then .ok w.formula.tree else .error .tooNested := by
  obtain ⟨more, hmore, hread⟩ := (reads hw).sum (3 * w.tokens.length + 3) firstLevel [] (by rw [List.append_nil])
    (fun _ ht => (Option.not_mem_none _ ht).elim)
  obtain ⟨more, rfl⟩ := spare hmore
  rw [List.append_nil] at hread
  rw [Tree.ofTokens, hread]
  by_cases hfits : w.Fits firstLevel
  · rw [if_pos hfits, if_pos hfits, moreTerms_stop fun _ ht => (Option.not_mem_none _ ht).elim]
  · rw [if_neg hfits, if_neg hfits]

end Layout
end LineScript.Arithmetic
