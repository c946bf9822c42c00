import LineScript.Proofs.Expression.Interpolation
import LineScript.Proofs.Arithmetic.NamedTokens

/-! What an expression reads of a store. There are three readers of it: a whole text may be the name of a variable,
    a quoted text looks up the names in its markers, and arithmetic those that are its tokens, in their normal form.
    The names that are mentioned in these ways are all that a store is asked for. So if two stores agree on them, the
    expression comes to the same in both, be that a value or a fault. -/

namespace LineScript

/-- The text is read as arithmetic: it is nothing that comes before, and has an operator in it. -/
structure ReachesArithmetic (store : Store) (t : Text) : Prop where
  unquoted : unquoted? t = none
  notTrue : t ≠ "true".toText
  notFalse : t ≠ "false".toText
  noInteger : Literal.integer? t = .ok none
  noFloat : Literal.float? t = none
  unbound : store.get? t = none
  operator : hasOperator t = true

/-- The expression mentions a name. -/
inductive Mentions (store : Store) (expression : Text) : Text → Prop where
  | whole : Mentions store expression (Text.trim expression)
  | marker {inside name : Text} {pieces : List Piece} (hquoted : unquoted? (Text.trim expression) = some inside)
    (hread : ReadsAs inside pieces) (hmem : .marker name ∈ pieces) : Mentions store expression name
  | operand {written : Text} (hreaches : ReachesArithmetic store (Text.trim expression))
    (hmem : .name written ∈ Arithmetic.tokens (Arithmetic.prepared (Text.trim expression))) :
    Mentions store expression (Text.normalForm written)

variable {store store' : Store} {expression t : Text}

theorem Piece.shown_congr {p : Piece} (h : ∀ name, p = .marker name → store'.get? name = store.get? name) :
    p.shown store' = p.shown store := by
  cases p with
  | marker name => rw [Piece.shown, Piece.shown, h name rfl]
  | plain c => rfl

/-- Interpolation reads nothing but the names in markers. -/
theorem interpolate_congr
    (h : ∀ pieces, ReadsAs t pieces → ∀ name, .marker name ∈ pieces → store'.get? name = store.get? name) :
    interpolate store' t = interpolate store t := by
  obtain ⟨pieces, hread, hshown⟩ := interpolate_one_pass t
  rw [hshown, hshown]
  refine List.flatMap_congr fun p hp => Piece.shown_congr ?_
  rintro name rfl
  exact h pieces ((hread pieces).mpr rfl) name hp

/-- What is neither quoted nor a truth value reads its whole, unless it is a literal, and arithmetic behind that. -/
theorem evaluateBare_congr (hwhole : store'.get? t = store.get? t)
    (harithmetic : Literal.integer? t = .ok none → Literal.float? t = none → store.get? t = none →
      hasOperator t = true → Arithmetic.evaluate store' t = Arithmetic.evaluate store t) :
    evaluateBare store' t = evaluateBare store t := by
  unfold evaluateBare
  rw [hwhole]
  cases hinteger : Literal.integer? t with
  | error cause => dsimp only [bind, Except.bind]
  | ok found =>
    dsimp only [bind, Except.bind]
    cases found with
    | some n => dsimp only
    | none =>
      dsimp only
      split
      · rfl
      · next hfloat =>
        split
        · rfl
        · next hget =>
          split
          · next hoperator => exact harithmetic hinteger hfloat hget hoperator
          · rfl

theorem evaluate_congr (h : ∀ name, Mentions store expression name → store'.get? name = store.get? name) :
    evaluate store' expression = evaluate store expression := by
  rw [evaluate, evaluate]
  split
  · next inside hquoted =>
    rw [interpolate_congr fun pieces hread name hmem => h name (.marker hquoted hread hmem)]
  · next hquoted =>
    split
    · rfl
    split
    · rfl
    · next htrue hfalse =>
      refine evaluateBare_congr (h _ .whole) fun hinteger hfloat hget hoperator => ?_
      refine Arithmetic.evaluate_congr fun written hmem => Arithmetic.lookup_congr ?_
      exact h _ (.operand ⟨hquoted, htrue, hfalse, hinteger, hfloat, hget, hoperator⟩ hmem)

/-- Two stores that agree on the names that an expression mentions give it the same value, or the same fault with the
    same message. So a name that it does not mention can come, go and change. -/
theorem evaluate_reads_mentioned (store : Store) (expression : Text) :
    (∀ store' : Store, (∀ name, Mentions store expression name → store'.get? name = store.get? name) →
      evaluate store' expression = evaluate store expression) ∧
    ∀ name, ¬Mentions store expression name → ∀ store' : Store,
      (∀ other, other ≠ name → store'.get? other = store.get? other) →
        evaluate store' expression = evaluate store expression := by
  refine ⟨fun store' => evaluate_congr, fun name hname store' h => evaluate_congr fun other hother => h other ?_⟩
  rintro rfl
  exact hname hother

/-- The name of the operand is written in full width, and only its normal form is read. -/
theorem evaluate_reads_mentioned_full_width :
    evaluate ⟨[("\uFF58".toText, .integer 9), ("x".toText, .integer 2)]⟩ " \uFF58 * 3".toText =
      evaluate ⟨[("x".toText, .integer 2), ("y".toText, .boolean true)]⟩ " \uFF58 * 3".toText := by
  refine (evaluate_reads_mentioned _ _).1 _ fun name h => ?_
  cases h with
  | whole => decide
  | marker hquoted _ _ =>
    have hunquoted : unquoted? (Text.trim " \uFF58 * 3".toText) = none := by decide
    rw [hunquoted] at hquoted
    cases hquoted
  | @operand written hreaches hmem =>
    have htokens : Arithmetic.tokens (Arithmetic.prepared (Text.trim " \uFF58 * 3".toText)) =
        [.name "\uFF58".toText, .star, .number (.integer 3)] := by
      decide +kernel
    rw [htokens] at hmem
    have hname : written = "\uFF58".toText := by simpa using hmem
    subst hname
    decide +kernel

end LineScript
