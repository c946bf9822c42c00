import LineScript.Proofs.Except
import LineScript.Proofs.Program.Effects
import LineScript.Proofs.Text.Search

/-! What is cut out of a line. A declared name is never empty, since what stands before it is trimmed and its word
    ends in a blank; and a line that calls a function has one of its openings. So a line is malformed only where its
    closing parenthesis is missing behind the first opening, and everything up to the last one is taken. Expressions
    fail in ways of their own, which no malformed line shares. -/

namespace LineScript

variable {limit : Int} {store : Store} {line argument expression left right name : Text} {cause : Cause} {b : Builtin}

/-! ### Expressions fail in execution -/

theorem Arithmetic.evaluate_kind {t : Text} (h : Arithmetic.evaluate store t = .error cause) :
    cause.kind = .execution := by
  unfold Arithmetic.evaluate at h
  split at h
  · cases h
    rfl
  split at h
  · cases h
    rfl
  split at h
  · next fault _ =>
    cases h
    cases fault <;> rfl
  split at h
  · cases h
    rfl
  · cases h

theorem Literal.integer?_kind {t : Text} (h : Literal.integer? t = .error cause) : cause.kind = .execution := by
  unfold Literal.integer? at h
  split at h
  · cases h
  split at h
  · cases h
    rfl
  · cases h

theorem evaluateBare_kind {t : Text} (h : evaluateBare store t = .error cause) : cause.kind = .execution := by
  rcases bind_error_iff.mp h with hliteral | ⟨n?, -, h⟩
  · exact Literal.integer?_kind hliteral
  split at h
  · cases h
  split at h
  · cases h
  split at h
  · cases h
  split at h
  · exact Arithmetic.evaluate_kind h
  · cases h
    rfl

/-- No expression is malformed as a statement or a call is. -/
theorem evaluate_kind (h : evaluate store expression = .error cause) : cause.kind = .execution := by
  unfold evaluate at h
  dsimp only at h
  split at h
  · cases h
  split at h
  · cases h
  split at h
  · cases h
  · exact evaluateBare_kind h

theorem evaluate_map_ne {f : Value → Effect} (hcause : cause.kind ≠ .execution) :
    (evaluate store expression).map f ≠ .error cause := by
  cases h : evaluate store expression with
  | ok v => exact fun he => nomatch he
  | error found => exact fun he => hcause (Except.error.inj he ▸ evaluate_kind h)

/-! ### Calls -/

theorem Cause.kind_naming {wording : Int → Cause} (h : ∀ limit, (wording limit).kind = .execution) (limit : Int) :
    (Cause.naming wording limit).kind = .execution := by
  unfold Cause.naming
  split
  · exact h limit
  · rfl

namespace Builtin

theorem writeFactorial_kind {n : Int} (h : writeFactorial n = .error cause) : cause.kind = .execution := by
  rcases bind_error_iff.mp h with hdeep | ⟨k, -, h⟩
  · unfold factorialOf at hdeep
    split at hdeep
    · cases hdeep
      rfl
    · cases hdeep
  · split at h
    · cases h
    · cases h
      rfl

theorem callFactorial_kind (h : callFactorial limit store argument = .error cause) : cause.kind = .execution := by
  rcases bind_error_iff.mp h with hvalue | ⟨v, -, h⟩
  · exact evaluate_kind hvalue
  cases v with
  | integer n =>
    dsimp only at h
    split at h
    · cases h
      exact Cause.kind_naming (fun _ => rfl) limit
    · exact writeFactorial_kind h
  | _ =>
    cases h
    rfl

theorem callGreet_kind (h : callGreet store argument = .error cause) : cause.kind = .execution := by
  rcases bind_error_iff.mp h with hvalue | ⟨v, -, h⟩
  · exact evaluate_kind hvalue
  cases v with
  | string t => cases h
  | _ =>
    cases h
    rfl

theorem callAdd_kind (h : callAdd store argument = .error cause) : cause = .addArity ∨ cause.kind = .execution := by
  unfold callAdd at h
  split at h
  · right
    rcases bind_error_iff.mp h with hfirst | ⟨u, -, h⟩
    · exact evaluate_kind hfirst
    rcases bind_error_iff.mp h with hsecond | ⟨v, -, h⟩
    · exact evaluate_kind hsecond
    split at h
    · split at h
      · cases h
      · cases h
        rfl
    · cases h
      rfl
  · exact .inl (Except.error.inj h).symm

/-- With its arguments found, a call is no longer malformed in its parentheses. -/
theorem apply_ne_invalidCall (b : Builtin) (limit : Int) (store : Store) (argument name : Text) :
    b.apply limit store argument ≠ .error (.invalidCall name) := by
  intro h
  cases b with
  | factorial => exact nomatch callFactorial_kind h
  | greet => exact nomatch callGreet_kind h
  | add =>
    rcases callAdd_kind h with harity | hkind
    · cases harity
    · exact nomatch hkind

/-- The plain opening, which is what a line is matched against, is among those that arguments begin behind. -/
theorem opening_mem_openings (b : Builtin) : b.opening ∈ b.openings := by
  cases b <;> decide

/-- A line that calls a function has an opening of it, the first one of which counts. -/
theorem called?_opens (h : called? line = some b) :
    ∃ opening, b.openings.find? (fun o => Text.occurs o line) = some opening ∧ opening <:+: line := by
  have hplain : Text.occurs b.opening line = true :=
    List.find?_some (p := fun b : Builtin => Text.occurs b.opening line) h
  have hsome : (b.openings.find? fun o => Text.occurs o line).isSome = true :=
    List.find?_isSome.mpr ⟨b.opening, b.opening_mem_openings, hplain⟩
  obtain ⟨opening, hopening⟩ := Option.isSome_iff_exists.mp hsome
  exact ⟨opening, hopening, Text.occurs_iff.mp (List.find?_some (p := fun o => Text.occurs o line) hopening)⟩

theorem arguments_of_opening {opening : Text}
    (h : b.openings.find? (fun o => Text.occurs o line) = some opening) :
    b.arguments line = match Text.between? opening ')' line with
      | none => .error (.invalidCall b.name)
      | some t => .ok t := by
  cases ht : Text.between? opening ')' line <;> simp only [arguments, h, ht]

theorem arguments_invalid_iff {opening : Text}
    (h : b.openings.find? (fun o => Text.occurs o line) = some opening) :
    b.arguments line = .error (.invalidCall b.name) ↔ Text.between? opening ')' line = none := by
  rw [arguments_of_opening h]
  cases Text.between? opening ')' line <;> simp

theorem call_eq_of_called (h : called? line = some b) :
    call limit store line = b.arguments line >>= fun argument => b.apply limit store argument := by
  rw [call, h]

/-- A call fails for its parentheses where its arguments are not found, and nowhere else. -/
theorem call_invalid_iff (h : called? line = some b) :
    call limit store line = .error (.invalidCall b.name) ↔ b.arguments line = .error (.invalidCall b.name) := by
  rw [call_eq_of_called h, bind_error_iff]
  constructor
  · rintro (hnone | ⟨argument, -, happly⟩)
    · exact hnone
    · exact absurd happly (b.apply_ne_invalidCall limit store argument b.name)
  · exact .inl

end Builtin

/-! ### Declarations and prints -/

namespace Statement

/-- The word of a declaration ends in a blank, and what is trimmed does not: a name follows. -/
theorem declaredName?_ne_nil (h : declaredName? (Text.trim left) = some name) : name ≠ [] := by
  obtain ⟨word, hword, rest, hleft, rfl⟩ := declaredName?_eq_some_iff.mp h
  intro hblank
  have hblanks : ∀ c ∈ rest, Text.isBlank c = true := Text.trim_eq_nil_iff.mp hblank
  have hends : ∀ word ∈ [letWord, varWord], ∃ c, word.getLast? = some c ∧ Text.isBlank c = true := by decide
  obtain ⟨c, hlast, hc⟩ := hends word hword
  have hall : ∃ c, (word ++ rest).getLast? = some c ∧ Text.isBlank c = true := by
    cases hrest : rest.getLast? with
    | none => exact ⟨c, by rw [List.getLast?_append, hrest, Option.none_or, hlast], hc⟩
    | some d =>
      exact ⟨d, by rw [List.getLast?_append, hrest, Option.some_or], hblanks d (List.mem_of_getLast? hrest)⟩
  obtain ⟨d, hd, hblank⟩ := hall
  have hnot := Text.isBlank_getLast_trim (hleft ▸ hd)
  rw [hblank] at hnot
  cases hnot

/-- The line has one `=`, with a word of a declaration at the beginning of what stands before it. -/
def WellDeclared (line : Text) : Prop :=
  ∃ left right, line.splitOn (.char '=') = [left, right] ∧ ∃ word ∈ [letWord, varWord], word <+: Text.trim left

theorem runDeclaration_of_wellDeclared (h : WellDeclared line) :
    ∃ name right, runDeclaration store line = (evaluate store (Text.trim right)).map (.binds name) := by
  obtain ⟨left, right, hsplit, word, hword, rest, hleft⟩ := h
  have hname : declaredName? (Text.trim left) = some (Text.trim rest) :=
    declaredName?_eq_some_iff.mpr ⟨word, hword, rest, hleft.symm, rfl⟩
  have hne : (Text.trim rest).isEmpty = false := by simpa using declaredName?_ne_nil hname
  refine ⟨Text.trim rest, right, ?_⟩
  rw [runDeclaration, hsplit]
  dsimp only
  rw [hname]
  dsimp only
  rw [hne]
  cases evaluate store (Text.trim right) <;> rfl

theorem runDeclaration_of_not_wellDeclared (h : ¬WellDeclared line) :
    runDeclaration store line = .error .invalidDeclaration := by
  unfold runDeclaration
  split
  · next left right hsplit =>
    split
    · rfl
    · next name hname =>
      obtain ⟨word, hword, rest, hleft, -⟩ := declaredName?_eq_some_iff.mp hname
      exact absurd ⟨left, right, hsplit, word, hword, rest, hleft.symm⟩ h
  · rfl

/-- A declaration is malformed only in its `=` or its word, and never for an empty name. -/
theorem runDeclaration_invalid_iff :
    runDeclaration store line = .error .invalidDeclaration ↔ ¬WellDeclared line := by
  refine ⟨fun h hwell => ?_, runDeclaration_of_not_wellDeclared⟩
  obtain ⟨name, right, hrun⟩ := runDeclaration_of_wellDeclared hwell
  exact evaluate_map_ne (by decide) (hrun.symm.trans h)

theorem run_of_print (h : printOpening <:+: line) :
    run limit store line = match Text.between? printOpening ')' line with
      | none => .error .invalidPrint
      | some content => (evaluate store content).map fun v => .shows v.display := by
  rw [run, ofLine_print h]
  dsimp only
  rw [runPrint]
  cases Text.between? printOpening ')' line with
  | none => rfl
  | some content => dsimp only; cases evaluate store content <;> rfl

theorem run_print_invalid_iff (h : printOpening <:+: line) :
    run limit store line = .error .invalidPrint ↔ Text.between? printOpening ')' line = none := by
  rw [run_of_print h]
  cases Text.between? printOpening ')' line with
  | none => simp
  | some content => simpa using evaluate_map_ne (by decide)

/-- What is cut out of lines, exactly. A declaration that has its word has a name, and it is malformed only if it has
    not one `=` or no word before it. A line that calls a function has an opening of it: the call is malformed just if
    no closing parenthesis follows the first place of the opening, and otherwise the arguments are what follows that
    place up to the last closing parenthesis. It is the same with a print. -/
theorem extraction_exact (limit : Int) (store : Store) (line : Text) :
    ((∀ left name, declaredName? (Text.trim left) = some name → name ≠ []) ∧
      (runDeclaration store line = .error .invalidDeclaration ↔ ¬WellDeclared line)) ∧
    (∀ b, Builtin.called? line = some b → ∃ opening before after,
      b.openings.find? (fun o => Text.occurs o line) = some opening ∧ Text.FirstAt opening line before after ∧
      (b.arguments line = .error (.invalidCall b.name) ↔ .char ')' ∉ after) ∧
      (Builtin.call limit store line = .error (.invalidCall b.name) ↔ .char ')' ∉ after) ∧
      (.char ')' ∈ after → ∃ argument rest, b.arguments line = .ok argument ∧
        after = argument ++ .char ')' :: rest ∧ .char ')' ∉ rest)) ∧
    (printOpening <:+: line → ∃ before after, Text.FirstAt printOpening line before after ∧
      (run limit store line = .error .invalidPrint ↔ .char ')' ∉ after) ∧
      (.char ')' ∈ after → ∃ content rest, Text.between? printOpening ')' line = some content ∧
        after = content ++ .char ')' :: rest ∧ .char ')' ∉ rest ∧
        run limit store line = (evaluate store content).map fun v => .shows v.display)) ∧
    Cause.invalidPrint.message = "Invalid print statement".toText ∧
    ∀ b : Builtin, (Cause.invalidCall b.name).message = "Invalid ".toText ++ b.name ++ " function call".toText := by
  refine ⟨⟨fun left name => declaredName?_ne_nil, runDeclaration_invalid_iff⟩, fun b hcalled => ?_, fun hprint => ?_,
    rfl, fun b => rfl⟩
  · obtain ⟨opening, hopening, hin⟩ := Builtin.called?_opens hcalled
    obtain ⟨before, after, hfirst⟩ := Text.exists_firstAt hin
    have hinvalid : b.arguments line = .error (.invalidCall b.name) ↔ .char ')' ∉ after := by
      rw [Builtin.arguments_invalid_iff hopening, Text.between?_eq_none_iff hfirst]
    refine ⟨opening, before, after, hopening, hfirst, hinvalid, (Builtin.call_invalid_iff hcalled).trans hinvalid,
      fun hclosing => ?_⟩
    obtain ⟨argument, rest, hfound, hparts⟩ := Text.exists_between? hfirst hclosing
    exact ⟨argument, rest, by rw [Builtin.arguments_of_opening hopening, hfound], hparts⟩
  · obtain ⟨before, after, hfirst⟩ := Text.exists_firstAt hprint
    refine ⟨before, after, hfirst, ?_, fun hclosing => ?_⟩
    · rw [run_print_invalid_iff hprint, Text.between?_eq_none_iff hfirst]
    · obtain ⟨content, rest, hfound, hparts, hlast⟩ := Text.exists_between? hfirst hclosing
      exact ⟨content, rest, hfound, hparts, hlast, by rw [run_of_print hprint, hfound]⟩

/-- The second opening of a greeting goes before the first one, which stands further left; and a closing parenthesis in
    front of a print closes nothing. -/
theorem extraction_exact_second_opening :
    let call := "greet(a) greet(name: \"(b)\") + (c".toText
    let print := ") print(x".toText
    (Builtin.called? call = some .greet ∧ ∃ before after,
      Text.FirstAt "greet(name:".toText call before after ∧ .char ')' ∈ after ∧
      Builtin.greet.arguments call = .ok " \"(b)\"".toText) ∧
    printOpening <:+: print ∧ run 20 .empty print = .error .invalidPrint := by
  intro call print
  have hcalled : Builtin.called? call = some .greet := by decide
  have hopens : printOpening <:+: print := Text.occurs_iff.mp (by decide)
  have harguments : Builtin.greet.arguments call = .ok " \"(b)\"".toText := by decide
  refine ⟨⟨hcalled, ?_⟩, hopens, ?_⟩
  · obtain ⟨opening, before, after, hopening, hfirst, hinvalid, -⟩ :=
      (extraction_exact 20 .empty call).2.1 .greet hcalled
    obtain rfl : "greet(name:".toText = opening := Option.some.inj (hopening ▸ by decide)
    refine ⟨before, after, hfirst, ?_, harguments⟩
    by_contra hnot
    have hfails := hinvalid.mpr hnot
    rw [harguments] at hfails
    cases hfails
  · obtain ⟨before, after, hfirst, hinvalid, -⟩ := (extraction_exact 20 .empty print).2.2.1 hopens
    have hcut : Text.cut? printOpening print = some (") ".toText, "x".toText) := by decide
    obtain ⟨rfl, rfl⟩ := Prod.mk.inj (Option.some.inj (hfirst.cut?.symm.trans hcut))
    exact hinvalid.mpr (by decide)

end Statement

end LineScript
