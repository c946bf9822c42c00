import LineScript.Proofs.Program.Run
import LineScript.Proofs.Text.Pieces

/-! What a line leaves behind. What a line is follows from what occurs in it, and from that what it can do to the store:
    a print, a call and a line that is nothing leave it as it is, and so does a failure; a declaration or an
    assignment sets one name to the value of what stands behind its only `=`. -/

namespace LineScript

variable {limit : Int} {store : Store} {line left right name other expression : Text} {v : Value}

/-! ### Setting a name -/

theorem Store.get?_set_self (store : Store) (name : Text) (v : Value) : (store.set name v).get? name = some v := by
  obtain ⟨bindings⟩ := store
  show List.lookup name (Store.setIn name v bindings) = some v
  induction bindings with
  | nil => simp [Store.setIn]
  | cons b rest ih =>
    unfold Store.setIn
    split
    · exact List.lookup_cons_self
    · next hb => rw [List.lookup_cons, beq_false_of_ne (Ne.symm hb), ih]

theorem Store.get?_set_of_ne (store : Store) (v : Value) (h : other ≠ name) :
    (store.set name v).get? other = store.get? other := by
  obtain ⟨bindings⟩ := store
  show List.lookup other (Store.setIn name v bindings) = List.lookup other bindings
  induction bindings with
  | nil => simp [Store.setIn, List.lookup_cons, beq_false_of_ne h]
  | cons b rest ih =>
    unfold Store.setIn
    split
    · next hb => rw [List.lookup_cons, List.lookup_cons, beq_false_of_ne h, hb, beq_false_of_ne h]
    · rw [List.lookup_cons, List.lookup_cons, ih]

/-- One name has been given a value, and all others are as they were. -/
structure Store.SetOnly (before : Store) (name : Text) (v : Value) (after : Store) : Prop where
  bound : after.get? name = some v
  kept : ∀ other, other ≠ name → after.get? other = before.get? other

theorem Store.setOnly_set (store : Store) (name : Text) (v : Value) : store.SetOnly name v (store.set name v) :=
  ⟨store.get?_set_self name v, fun _ => store.get?_set_of_ne v⟩

/-- Blanks around an expression do not count. -/
theorem evaluate_trim (store : Store) (expression : Text) :
    evaluate store (Text.trim expression) = evaluate store expression := by
  rw [evaluate, evaluate, Text.trim_trim]

theorem evaluate_blank (store : Store) (expression : Text) :
    evaluate store (.char ' ' :: expression) = evaluate store expression := by
  rw [evaluate, evaluate, Text.trim_cons_blank (by decide)]

namespace Statement

/-! ### What a line is -/

/-- A word of a declaration occurs in the line. -/
def Declares (line : Text) : Prop := letWord <:+: line ∨ varWord <:+: line

/-- The line has a `=` and compares nothing. -/
def Assigns (line : Text) : Prop := .char '=' ∈ line ∧ ∀ sign ∈ comparisons, ¬sign <:+: line

/-- The line is a declaration or an assignment. A print goes before both. -/
def Binds (line : Text) : Prop := ¬printOpening <:+: line ∧ (Declares line ∨ Assigns line)

theorem ofLine_print (h : printOpening <:+: line) : ofLine line = .print := if_pos (Text.occurs_iff.mpr h)

theorem ofLine_of_not_print (h : ¬printOpening <:+: line) : ofLine line =
    if Text.occurs letWord line || Text.occurs varWord line then .declaration
    else if line.contains (.char '=') && !comparisons.any fun c => Text.occurs c line then .assignment
    else if line.contains (.char '(') && line.contains (.char ')') then .call
    else .other :=
  if_neg (mt Text.occurs_iff.mp h)

theorem declares_iff : (Text.occurs letWord line || Text.occurs varWord line) = true ↔ Declares line := by
  rw [Bool.or_eq_true, Text.occurs_iff, Text.occurs_iff, Declares]

theorem assigns_iff :
    (line.contains (.char '=') && !comparisons.any fun c => Text.occurs c line) = true ↔ Assigns line := by
  simp only [Bool.and_eq_true, List.contains_iff_mem, Bool.not_eq_true', List.any_eq_false, Text.occurs_iff, Assigns]

theorem declares_of_word {word : Text} (hword : word ∈ [letWord, varWord]) (h : word <:+: line) : Declares line := by
  simp only [List.mem_cons, List.not_mem_nil, or_false] at hword
  rcases hword with rfl | rfl
  · exact .inl h
  · exact .inr h

theorem ofLine_declaration (hprint : ¬printOpening <:+: line) (h : Declares line) : ofLine line = .declaration := by
  rw [ofLine_of_not_print hprint, if_pos (declares_iff.mpr h)]

theorem ofLine_assignment (hprint : ¬printOpening <:+: line) (hdeclares : ¬Declares line) (h : Assigns line) :
    ofLine line = .assignment := by
  rw [ofLine_of_not_print hprint, if_neg (mt declares_iff.mp hdeclares), if_pos (assigns_iff.mpr h)]

theorem ofLine_of_not_binds (hprint : ¬printOpening <:+: line) (h : ¬Binds line) :
    ofLine line = .call ∨ (ofLine line = .other ∧ (.char '(' ∉ line ∨ .char ')' ∉ line)) := by
  have hdeclares : ¬Declares line := fun hd => h ⟨hprint, .inl hd⟩
  have hassigns : ¬Assigns line := fun ha => h ⟨hprint, .inr ha⟩
  rw [ofLine_of_not_print hprint, if_neg (mt declares_iff.mp hdeclares), if_neg (mt assigns_iff.mp hassigns)]
  split
  · exact .inl rfl
  · next hparens =>
    rw [Bool.and_eq_true, List.contains_iff_mem, List.contains_iff_mem] at hparens
    exact .inr ⟨rfl, not_and_or.mp hparens⟩

/-! ### What is left -/

/-- What is left when the effect of a line is applied, or its failure reported. -/
def settled (store : Store) : Except Cause Effect → EStateM.Result Cause Store Text
  | .ok effect => .ok effect.shown (effect.store store)
  | .error cause => .error cause store

/-- The name that a line binds, from what stands before its `=`. -/
inductive Target (line left : Text) : Text → Prop where
  | declared {word rest : Text} (h : Declares line) (hword : word ∈ [letWord, varWord])
    (hleft : Text.trim left = word ++ rest) : Target line left (Text.trim rest)
  | assigned (h : ¬Declares line) : Target line left (Text.trim left)

/-- The effect of a line, and what it leaves: a failure or a text in the store as it was, or the store with one name set
    to the value that stands for it there. -/
inductive Leaves (limit : Int) (store : Store) (line : Text) :
    Except Cause Effect → EStateM.Result Cause Store Text → Prop where
  | failed (cause : Cause) (h : printOpening <:+: line ∨ Binds line ∨ Builtin.called? line ≠ none) :
    Leaves limit store line (.error cause) (.error cause store)
  | printed {content : Text} {v : Value} (h : printOpening <:+: line)
    (hcontent : Text.between? printOpening ')' line = some content) (hv : evaluate store content = .ok v) :
    Leaves limit store line (.ok (.shows v.display)) (.ok v.display store)
  | called {t : Text} (hprint : ¬printOpening <:+: line) (hbinds : ¬Binds line)
    (ht : Builtin.call limit store line = .ok t) : Leaves limit store line (.ok (.shows t)) (.ok t store)
  | passed (hprint : ¬printOpening <:+: line) (hbinds : ¬Binds line) (h : .char '(' ∉ line ∨ .char ')' ∉ line) :
    Leaves limit store line (.ok (.shows [])) (.ok [] store)
  | bound {left right name : Text} {v : Value} {after : Store} (h : Binds line)
    (hline : line = left ++ .char '=' :: right) (hleft : .char '=' ∉ left) (hright : .char '=' ∉ right)
    (hname : Target line left name) (hne : name ≠ []) (hv : evaluate store right = .ok v)
    (hset : store.SetOnly name v after) : Leaves limit store line (.ok (.binds name v)) (.ok [] after)

theorem runPrint_leaves (h : printOpening <:+: line) :
    Leaves limit store line (runPrint store line) (settled store (runPrint store line)) := by
  rw [runPrint]
  cases hcontent : Text.between? printOpening ')' line with
  | none => exact .failed .invalidPrint (.inl h)
  | some content =>
    dsimp only
    cases hv : evaluate store content with
    | error cause => exact .failed cause (.inl h)
    | ok v => exact .printed h hcontent hv

/-- A declared name is what stands behind one of the words. -/
theorem declaredName?_eq_some_iff :
    declaredName? left = some name ↔
      ∃ word ∈ [letWord, varWord], ∃ rest, left = word ++ rest ∧ name = Text.trim rest := by
  simp only [declaredName?, Bool.or_eq_true, List.isPrefixOf_iff_prefix, Option.ite_none_right_eq_some,
    Option.some.injEq]
  constructor
  · rintro ⟨⟨rest, rfl⟩ | ⟨rest, rfl⟩, rfl⟩
    · exact ⟨letWord, by simp, rest, rfl, rfl⟩
    · exact ⟨varWord, by simp, rest, rfl, rfl⟩
  · rintro ⟨word, hword, rest, rfl, rfl⟩
    simp only [List.mem_cons, List.not_mem_nil, or_false] at hword
    rcases hword with rfl | rfl
    · exact ⟨.inl (List.prefix_append _ _), rfl⟩
    · exact ⟨.inr (List.prefix_append _ _), rfl⟩

/-- The value is found before the name is set. -/
theorem bound_leaves {fault : Cause} (h : Binds line) (hsplit : line.splitOn (.char '=') = [left, right])
    (hname : Target line left name) (hexpression : evaluate store expression = evaluate store right)
    {found : Except Cause Effect}
    (hfound : found = if name.isEmpty then .error fault else do
      let v ← evaluate store expression
      return .binds name v) :
    Leaves limit store line found (settled store found) := by
  obtain ⟨hline, hleft, hright⟩ := Text.eq_of_splitOn hsplit
  rw [hexpression] at hfound
  split at hfound
  · rw [hfound]
    exact .failed fault (.inr (.inl h))
  · next hne =>
    rw [hfound]
    cases hv : evaluate store right with
    | error cause => exact .failed cause (.inr (.inl h))
    | ok v => exact .bound h hline hleft hright hname (by simpa using hne) hv (store.setOnly_set name v)

theorem runDeclaration_leaves (hprint : ¬printOpening <:+: line) (h : Declares line) :
    Leaves limit store line (runDeclaration store line) (settled store (runDeclaration store line)) := by
  have hbinds : Binds line := ⟨hprint, .inl h⟩
  generalize hfound : runDeclaration store line = found
  unfold runDeclaration at hfound
  split at hfound
  · next left right hsplit =>
    split at hfound
    · rw [← hfound]
      exact .failed .invalidDeclaration (.inr (.inl hbinds))
    · next name hdeclared =>
      obtain ⟨word, hword, rest, hleft, rfl⟩ := declaredName?_eq_some_iff.mp hdeclared
      exact bound_leaves hbinds hsplit (.declared h hword hleft) (evaluate_trim store right) hfound.symm
  · rw [← hfound]
    exact .failed .invalidDeclaration (.inr (.inl hbinds))

theorem runAssignment_leaves (hprint : ¬printOpening <:+: line) (hdeclares : ¬Declares line) (h : Assigns line) :
    Leaves limit store line (runAssignment store line) (settled store (runAssignment store line)) := by
  have hbinds : Binds line := ⟨hprint, .inr h⟩
  generalize hfound : runAssignment store line = found
  unfold runAssignment at hfound
  split at hfound
  · next left right hsplit => exact bound_leaves hbinds hsplit (.assigned hdeclares) rfl hfound.symm
  · rw [← hfound]
    exact .failed .invalidAssignment (.inr (.inl hbinds))

theorem runCall_leaves (hprint : ¬printOpening <:+: line) (hbinds : ¬Binds line) :
    Leaves limit store line (runCall limit store line) (settled store (runCall limit store line)) := by
  rw [runCall]
  cases ht : Builtin.call limit store line with
  | ok t => exact .called hprint hbinds ht
  | error cause =>
    refine .failed cause (.inr (.inr fun hnone => ?_))
    rw [Builtin.call, hnone] at ht
    cases ht

/-- Everything that the run of a line can come to. -/
theorem run_leaves (limit : Int) (store : Store) (line : Text) :
    Leaves limit store line (run limit store line) (settled store (run limit store line)) := by
  unfold run
  by_cases hprint : printOpening <:+: line
  · rw [ofLine_print hprint]
    exact runPrint_leaves hprint
  by_cases hdeclares : Declares line
  · rw [ofLine_declaration hprint hdeclares]
    exact runDeclaration_leaves hprint hdeclares
  by_cases hassigns : Assigns line
  · rw [ofLine_assignment hprint hdeclares hassigns]
    exact runAssignment_leaves hprint hdeclares hassigns
  · have hbinds : ¬Binds line := fun h => h.2.elim hdeclares hassigns
    rcases ofLine_of_not_binds hprint hbinds with hcall | ⟨hother, hparens⟩
    · rw [hcall]
      exact runCall_leaves hprint hbinds
    · rw [hother]
      exact .passed hprint hbinds hparens

/-- What a line binds: the name comes from what stands before its only `=`, and the value from what stands behind it. -/
theorem run_binds (h : run limit store line = .ok (.binds name v)) :
    ¬printOpening <:+: line ∧ ∃ left right, line = left ++ .char '=' :: right ∧ .char '=' ∉ left ∧
      Target line left name ∧ name ≠ [] ∧ evaluate store right = .ok v := by
  have hleaves := run_leaves limit store line
  rw [h] at hleaves
  cases hleaves with
  | bound hbinds hline hleft _ hname hne hv _ => exact ⟨hbinds.1, _, _, hline, hleft, hname, hne, hv⟩

theorem Target.trimmed (h : Target line left name) : Text.trim name = name := by
  cases h with
  | declared | assigned => exact Text.trim_trim _

theorem Target.isInfix (h : Target line left name) : name <:+: left := by
  cases h with
  | @declared word rest _ _ hleft =>
    have hrest : rest <:+: Text.trim left := hleft ▸ (List.suffix_append word rest).isInfix
    exact (Text.isInfix_trim rest).trans (hrest.trans (Text.isInfix_trim left))
  | assigned => exact Text.isInfix_trim left

end Statement

end LineScript
