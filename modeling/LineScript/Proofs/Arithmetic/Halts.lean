import LineScript.Proofs.Arithmetic.Whitelist

/-! What can end a reading. The machine itself only runs out of levels or finds that something is wrong at a place;
    everything else comes from quoted texts. So a fault that cannot be reported needs a quoted text with fields. -/

namespace LineScript.Arithmetic.Grammar

variable {P : Halt → Prop} {source : Source} {halt : Halt} {s s' : State}

/-- All that can end the reading of a source has a property: that nothing is found, that something is wrong at a
    place, that the levels run out, and whatever ends the reading of quoted texts in it. -/
structure Ends (source : Source) (P : Halt → Prop) : Prop where
  malformed : P .malformed
  spoiled (column : Option Nat) : P (.spoiled column)
  nested : P .tooNested
  joined {count position : Nat} {halt : Halt}
    (h : source.joined position (source.quotations count position) = .error (.halt halt)) : P halt

theorem Ends.deepen (hP : Ends source P) (h : s.deepen = .error halt) : P halt := by
  unfold State.deepen at h
  split at h
  · cases h
  · obtain rfl := Except.error.inj h
    exact hP.nested

theorem Ends.continueWith (hP : Ends source P) {start : Nat} {build : Build} {later : List Alternative} {final : Bool}
    {found : List Part} {ps : List Pattern} (h : continueWith source start build later s final found ps = .error halt) :
    P halt := by
  induction ps generalizing final found with
  | nil =>
    rw [Grammar.continueWith] at h
    split at h
    · cases h
    · cases h
    · obtain rfl := Except.error.inj h
      exact hP.spoiled _
  | cons p ps ih =>
    unfold Grammar.continueWith at h
    split at h
    · exact ih h
    · exact ih h
    · cases h

theorem Ends.attempt (hP : Ends source P) {alternatives : List Alternative}
    (h : attempt source s alternatives = .error halt) : P halt := by
  induction alternatives with
  | nil => cases h
  | cons a later ih =>
    obtain ⟨mistake, ps, build⟩ := a
    rw [Grammar.attempt] at h
    split at h
    · exact ih h
    · exact hP.continueWith h

theorem Ends.grow (hP : Ends source P) {r : Rule} (h : grow source r s = .error halt) : P halt := by
  obtain h | ⟨s', -, h⟩ := bind_error_iff.mp h
  · exact hP.deepen h
  · exact hP.attempt h

theorem Ends.lookForRule (hP : Ends source P) {r : Rule} (h : lookForRule source r s = .error halt) : P halt := by
  obtain h | ⟨s', -, h⟩ := bind_error_iff.mp h
  · exact hP.deepen h
  dsimp only at h
  split at h
  · obtain rfl := Except.error.inj h
    exact hP.spoiled none
  split at h
  · cases h
  split at h
  · exact hP.grow h
  · exact hP.attempt h

theorem Ends.lookForJoined (hP : Ends source P) (h : lookForJoined source s = .error halt) : P halt := by
  obtain h | ⟨s', -, h⟩ := bind_error_iff.mp h
  · exact hP.deepen h
  dsimp only at h
  split at h
  · obtain rfl := Except.error.inj h
    exact hP.spoiled none
  split at h
  · cases h
  split at h
  · cases h
  · obtain rfl := Except.error.inj h
    exact hP.spoiled _
  · obtain rfl := Except.error.inj h
    exact hP.spoiled _
  · next hjoined =>
    obtain rfl := Except.error.inj h
    exact hP.joined hjoined

theorem Ends.tokenParts (hP : Ends source P) {position : Nat} {p : Pattern} {t : Token}
    (h : tokenParts position p t = .error halt) : P halt := by
  unfold Grammar.tokenParts at h
  split at h <;> cases h
  exact hP.spoiled _

theorem Ends.look (hP : Ends source P) {p : Pattern} (h : look source s p = .error halt) : P halt := by
  unfold Grammar.look at h
  split at h
  · exact hP.lookForRule h
  · exact hP.lookForJoined h
  · obtain h | ⟨s', -, h⟩ := bind_error_iff.mp h
    · exact hP.deepen h
    · exact hP.attempt h
  · cases h
  · cases h
  · obtain h | ⟨s', -, h⟩ := bind_error_iff.mp h
    · exact hP.deepen h
    · split at h <;> cases h
  · cases h
  · cases h
  · dsimp only at h
    split at h
    · obtain rfl := Except.error.inj h
      exact hP.spoiled none
    · obtain h | ⟨found, -, h⟩ := bind_error_iff.mp h
      · exact hP.tokenParts h
      · split at h <;> cases h
    · cases h

theorem Ends.answer (hP : Ends source P) {found : Found} {f : Frame} (h : answer source found s f = .error halt) :
    P halt := by
  unfold Grammar.answer at h
  split at h
  · split at h
    · exact hP.continueWith h
    split at h
    · cases h
    · exact hP.attempt h
  · cases h
  · cases h
  · dsimp only at h
    split at h
    · exact hP.grow h
    · cases h
  · split at h <;> cases h
  · cases h
  · split at h <;> cases h

theorem Ends.run (hP : Ends source P) {fuel : Nat} {next : Next} (h : run source fuel next = .error halt) : P halt := by
  induction fuel generalizing next with
  | zero =>
    rw [Grammar.run] at h
    obtain rfl := Except.error.inj h
    exact hP.malformed
  | succ fuel ih =>
    cases next with
    | look p s =>
      rw [Grammar.run] at h
      obtain h | ⟨next, -, h⟩ := bind_error_iff.mp h
      · exact hP.look h
      · exact ih h
    | answer found s =>
      rw [Grammar.run] at h
      split at h
      · cases h
      · obtain h | ⟨next, -, h⟩ := bind_error_iff.mp h
        · exact hP.answer h
        · exact ih h

theorem Ends.finished (hP : Ends source P) {position : Nat} (h : finished source position = .error halt) : P halt := by
  unfold Grammar.finished at h
  split at h
  · cases h
  · obtain rfl := Except.error.inj h
    exact hP.spoiled none
  · split at h
    · obtain rfl := Except.error.inj h
      exact hP.spoiled none
    · cases h
  · cases h

theorem Ends.treeBy (hP : Ends source P) {root : Rule} {whole : Bool} (h : treeBy source root whole = .error halt) :
    P halt := by
  obtain h | ⟨outcome, -, h⟩ := bind_error_iff.mp h
  · exact hP.run h
  have hwrong {broken : Bool} (h : (find source root true outcome.seen >>= fun _ =>
      if broken then .error (.spoiled none) else .error (source.fault outcome.seen .latest)) =
        (.error halt : Except Halt Tree)) : P halt := by
    obtain h | ⟨_, -, h⟩ := bind_error_iff.mp h
    · exact hP.run h
    split at h
    · obtain rfl := Except.error.inj h
      exact hP.spoiled _
    · obtain rfl := Except.error.inj h
      exact hP.spoiled _
  dsimp only at h
  split at h
  · obtain h | ⟨complete, -, h⟩ := bind_error_iff.mp h
    · exact hP.finished h
    split at h
    · cases h
    · exact hwrong h
  · exact hwrong h

/-! ### Fields -/

theorem exists_format_of_joined {read : Nat → Formatted.FieldReader} {bytes : Option Bool} {highest index : Nat}
    {qs : List Quotation} (h : Formatted.joined read bytes highest index qs = .error (.halt halt)) :
    ∃ q ∈ qs, q.format = true := by
  induction qs generalizing bytes highest index with
  | nil => cases h
  | cons q qs ih =>
    by_cases hformat : q.format = true
    · exact ⟨q, List.mem_cons_self, hformat⟩
    · rw [Formatted.joined] at h
      split at h
      · cases h
      split at h
      · cases h
      obtain ⟨q', hq', hformat'⟩ := ih h
      exact ⟨q', List.mem_cons_of_mem q hq', hformat'⟩

theorem mem_of_mem_quotations {ts : List Token} (hsource : Ordinary source ts) {q : Quotation} {count position : Nat}
    (h : q ∈ source.quotations count position) : .quotation q ∈ ts := by
  induction count generalizing position with
  | zero => cases h
  | succ count ih =>
    rw [Source.quotations] at h
    split at h
    · next q' htoken =>
      obtain rfl | h := List.mem_cons.mp h
      · rw [hsource.token] at htoken
        exact List.mem_of_getElem? htoken
      · exact ih h
    · cases h

variable {t : Text}

theorem ends_sourceOf (depth : Nat) (firstColumn : Unit → Nat) (t : Text) :
    Ends (sourceOf depth firstColumn t)
      fun halt => halt = .misplaced → ∃ q, .quotation q ∈ tokens t ∧ q.format = true where
  malformed h := nomatch h
  spoiled _ h := nomatch h
  nested h := nomatch h
  joined h _ := by
    cases depth with
    | zero => cases h
    | succ depth =>
      obtain ⟨q, hq, hformat⟩ := exists_format_of_joined h
      exact ⟨q, mem_of_mem_quotations (ordinary_sourceOf (depth + 1) firstColumn t) hq, hformat⟩

/-- A fault that cannot be reported lies in a quoted text with fields. -/
theorem exists_format_of_misplaced (h : tree t = .error .misplaced) :
    ∃ q, .quotation q ∈ tokens t ∧ q.format = true :=
  (ends_sourceOf _ _ t).treeBy h rfl

end LineScript.Arithmetic.Grammar
