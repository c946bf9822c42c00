import LineScript.Proofs.Expression.Literals
import LineScript.Proofs.Program.InPlace

/-! The forms of a line that binds. A declaration with either word and an assignment are told apart by what occurs in
    the line and are taken apart in different ways, but they do the same, whatever the name is made of. And what they
    bind is read back where the name is printed, as it stands and in a marker. -/

namespace LineScript.Statement

variable {limit : Int} {store : Store} {name expression word : Text} {v : Value}

/-- The line that assigns an expression to a name. -/
def assigning (name expression : Text) : Text := name ++ " = ".toText ++ expression

/-- The line that prints an expression. -/
def printing (expression : Text) : Text := printOpening ++ expression ++ [.char ')']

/-- A name and an expression whose assignment is one and nothing else: the one `=` is between them, and no word of
    another statement occurs in the line. -/
structure Assignable (name expression : Text) : Prop where
  nonempty : name ≠ []
  trimmed : Text.trim name = name
  name_plain : .char '=' ∉ name
  expression_plain : .char '=' ∉ expression
  alone : ∀ word ∈ [printOpening, letWord, varWord], ¬word <:+: assigning name expression

/-! ### What the lines are -/

theorem assigning_eq (name expression : Text) :
    assigning name expression = (name ++ [.char ' ']) ++ .char '=' :: .char ' ' :: expression := by
  have hsign : " = ".toText = [.char ' ', .char '=', .char ' '] := rfl
  rw [assigning, hsign]
  simp only [List.append_assoc, List.cons_append, List.nil_append]

theorem splitOn_assigning (h : Assignable name expression) (before : Text) (hbefore : .char '=' ∉ before) :
    (before ++ assigning name expression).splitOn (.char '=') =
      [before ++ name ++ [.char ' '], .char ' ' :: expression] := by
  have hleft : .char '=' ∉ before ++ name ++ [.char ' '] := by simp [hbefore, h.name_plain]
  have hright : .char '=' ∉ .char ' ' :: expression := by simp [h.expression_plain]
  rw [assigning_eq, ← List.append_assoc, ← List.append_assoc]
  exact Text.splitOn_two hleft hright

/-- The sign of a comparison has another character before its `=`, and there stands a blank. -/
theorem assigns_assigning (h : Assignable name expression) : Assigns (assigning name expression) := by
  rw [assigning_eq]
  refine ⟨List.mem_append_right _ List.mem_cons_self, fun sign hsign hin => ?_⟩
  have hshape : ∀ sign ∈ comparisons, ∃ c ∈ sign, sign = [c, .char '='] ∧ c ≠ .char ' ' := by decide
  obtain ⟨c, -, rfl, hc⟩ := hshape sign hsign
  obtain ⟨before, after, heq⟩ := hin
  have hleft : .char '=' ∉ name ++ [.char ' '] := by simp [h.name_plain]
  have hright : .char '=' ∉ .char ' ' :: expression := by simp [h.expression_plain]
  have hsame : (before ++ [c]) ++ .char '=' :: after = (name ++ [.char ' ']) ++ .char '=' :: .char ' ' :: expression := by
    rw [← heq]
    simp
  obtain ⟨hends, -⟩ := (List.append_cons_inj_of_notMem hleft hright).mp hsame.symm
  obtain ⟨-, hblank⟩ := List.append_inj' hends rfl
  exact hc (List.cons.inj hblank).1.symm

theorem ofLine_assigning (h : Assignable name expression) : ofLine (assigning name expression) = .assignment := by
  have hdeclares : ¬Declares (assigning name expression) := fun hd =>
    hd.elim (h.alone letWord (by simp)) (h.alone varWord (by simp))
  exact ofLine_assignment (h.alone printOpening (by simp)) hdeclares (assigns_assigning h)

/-- A word of a declaration ends in a blank, and no print opens across it. -/
theorem not_print_declaring (h : Assignable name expression) (hword : word ∈ [letWord, varWord]) :
    ¬printOpening <:+: word ++ assigning name expression := by
  have hshape : ∀ word ∈ [letWord, varWord],
      word = word.dropLast ++ [.char ' '] ∧ ¬printOpening <:+: word.dropLast := by decide
  obtain ⟨hblank, hletters⟩ := hshape word hword
  intro hin
  rw [hblank, List.append_assoc] at hin
  rcases Text.isInfix_parted (by decide) hin with hin | hin
  · exact hletters hin
  · exact h.alone printOpening (by simp) hin

theorem ofLine_declaring (h : Assignable name expression) (hword : word ∈ [letWord, varWord]) :
    ofLine (word ++ assigning name expression) = .declaration :=
  ofLine_declaration (not_print_declaring h hword) (declares_of_word hword (List.prefix_append _ _).isInfix)

/-! ### What the lines do -/

/-- Behind a word, which begins with no blank, a trimmed text ends as it did. -/
theorem trim_declaring (h : Assignable name expression) (hword : word ∈ [letWord, varWord]) :
    Text.trim (word ++ name) = word ++ name := by
  have hfirst : ∀ word ∈ [letWord, varWord], word ≠ [] ∧ ∀ c ∈ word.head?, Text.isBlank c = false := by decide
  obtain ⟨hne, hhead⟩ := hfirst word hword
  refine Text.trim_of_ends (fun c hc => ?_) (fun c hc => ?_)
  · rw [List.head?_append_of_ne_nil word hne] at hc
    exact hhead c hc
  · rw [List.getLast?_append_of_ne_nil word h.nonempty, ← h.trimmed] at hc
    exact Text.isBlank_getLast_trim hc

theorem run_assigning (h : Assignable name expression) (limit : Int) (store : Store) :
    run limit store (assigning name expression) = (evaluate store expression).map (.binds name) := by
  have hsplit := splitOn_assigning h [] List.not_mem_nil
  have hne : name.isEmpty = false := by simpa using h.nonempty
  rw [List.nil_append, List.nil_append] at hsplit
  rw [run, ofLine_assigning h]
  dsimp only
  rw [runAssignment, hsplit]
  dsimp only
  rw [Text.trim_append_blank (by decide) h.trimmed h.nonempty, hne, evaluate_blank]
  cases evaluate store expression <;> rfl

theorem run_declaring (h : Assignable name expression) (hword : word ∈ [letWord, varWord]) (limit : Int)
    (store : Store) :
    run limit store (word ++ assigning name expression) = (evaluate store expression).map (.binds name) := by
  have hplain : ∀ word ∈ [letWord, varWord], .char '=' ∉ word := by decide
  have hne : name.isEmpty = false := by simpa using h.nonempty
  have hleft : Text.trim (word ++ name ++ [.char ' ']) = word ++ name :=
    Text.trim_append_blank (by decide) (trim_declaring h hword) (by simp [h.nonempty])
  have hname : declaredName? (word ++ name) = some name :=
    declaredName?_eq_some_iff.mpr ⟨word, hword, name, rfl, h.trimmed.symm⟩
  rw [run, ofLine_declaring h hword]
  dsimp only
  rw [runDeclaration, splitOn_assigning h word (hplain word hword)]
  dsimp only
  rw [hleft, hname]
  dsimp only
  rw [hne, evaluate_trim, evaluate_blank]
  cases evaluate store expression <;> rfl

theorem run_printing (limit : Int) (store : Store) (expression : Text) :
    run limit store (printing expression) = (evaluate store expression).map fun v => .shows v.display := by
  have hprint : printOpening <:+: printing expression := by
    rw [printing, List.append_assoc]
    exact (List.prefix_append _ _).isInfix
  rw [run, ofLine_print hprint]
  dsimp only
  rw [runPrint, printing, Text.between?_of_ends]
  dsimp only
  cases evaluate store expression <;> rfl

/-! ### Reading back -/

theorem evaluate_marker (hne : name ≠ []) (hopen : .char ')' ∉ name) (h : store.get? name = some v) :
    evaluate store (enquoted (Piece.written name)) = .ok (.string v.display) := by
  have hreads : ReadsAs (Piece.written name) [.marker name] := by
    have hmarker := ReadsAs.marker ⟨hne, hopen⟩ .nil
    rwa [List.append_nil] at hmarker
  rw [evaluate_enquoted, interpolate_pieces hreads, List.flatMap_singleton, Piece.shown, h]

/-- Of a name and an expression that a line can bind, the two declarations and the assignment make the same: they set
    the name to the value of the expression, or fail as its evaluation does and leave the store as it was. In the
    store after that, where the other names are as before, printing the name shows the value, unless the name has the
    form of a literal, and so does printing a text with the name in a marker, if it can stand in one. -/
theorem binding_forms_agree (h : Assignable name expression) (limit : Int) (store : Store) :
    (∀ line ∈ [letWord ++ assigning name expression, varWord ++ assigning name expression, assigning name expression],
      run limit store line = (evaluate store expression).map (.binds name) ∧
      ∀ cause, evaluate store expression = .error cause → (perform limit line).run store = .error cause store) ∧
    ∀ v, evaluate store expression = .ok v →
      let after := (Effect.binds name v).store store
      store.SetOnly name v after ∧
      (¬IsLiteral name → run limit after (printing name) = .ok (.shows v.display)) ∧
      (.char ')' ∉ name → run limit after (printing (enquoted (Piece.written name))) = .ok (.shows v.display)) := by
  constructor
  · intro line hline
    have hrun : run limit store line = (evaluate store expression).map (.binds name) := by
      simp only [List.mem_cons, List.not_mem_nil, or_false] at hline
      rcases hline with rfl | rfl | rfl
      · exact run_declaring h (by simp) limit store
      · exact run_declaring h (by simp) limit store
      · exact run_assigning h limit store
    refine ⟨hrun, fun cause hcause => ?_⟩
    rw [perform_settled, hrun, hcause]
    rfl
  · intro v _ after
    have hset : store.SetOnly name v after := store.setOnly_set name v
    refine ⟨hset, fun hname => ?_, fun hopen => ?_⟩
    · rw [run_printing, evaluate_bound h.trimmed hname hset.bound]
      rfl
    · rw [run_printing, evaluate_marker h.nonempty hopen hset.bound]
      rfl

/-- The name holds blanks, a quote, a comma, an operator, an opening parenthesis and the beginning of a marker, and
    was bound before. -/
theorem binding_forms_agree_odd_name :
    let name := "n \"o, (2 * \\(x".toText
    let expression := "\"\\(x) / 2\" ".toText
    let store : Store := ⟨[("x".toText, .integer 7), (name, .boolean true)]⟩
    let after : Store := ⟨[("x".toText, .integer 7), (name, .string "7 / 2".toText)]⟩
    Assignable name expression ∧ ¬IsLiteral name ∧
    run 20 store "let n \"o, (2 * \\(x = \"\\(x) / 2\" ".toText = .ok (.binds name (.string "7 / 2".toText)) ∧
    run 20 after "print(n \"o, (2 * \\(x)".toText = .ok (.shows "7 / 2".toText) ∧
    run 20 after "print(\"\\(n \"o, (2 * \\(x)\")".toText = .ok (.shows "7 / 2".toText) := by
  intro name expression store after
  have h : Assignable name expression := by constructor <;> decide
  have hname : ¬IsLiteral name := not_isLiteral_of_head (by decide) (by decide) (by decide)
  have hvalue : evaluate store expression = .ok (.string "7 / 2".toText) := by decide
  obtain ⟨hforms, hback⟩ := binding_forms_agree h 20 store
  obtain ⟨-, hprint, hmarker⟩ := hback _ hvalue
  have hline := (hforms (letWord ++ assigning name expression) (by simp)).1
  rw [hvalue] at hline
  exact ⟨h, hname, hline, hprint hname, hmarker (by decide)⟩

end LineScript.Statement
