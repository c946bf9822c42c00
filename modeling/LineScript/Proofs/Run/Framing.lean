import LineScript.Proofs.Program.Counts
import LineScript.Proofs.Program.Variables
import LineScript.Proofs.Run.Settings

/-! How the output of a run is framed. Each line of a program that shows a text adds one line to the output,
    and no text can look like two: nothing that a line of a program shows reaches beyond one line. So the
    lines of the output are the texts shown, and the length of the output follows from theirs. -/

namespace LineScript.Program
open Text

variable {limits : Limits} {s t : State} {code : Text} {shown : List Text}

/-- What the lines that are executed show, one text for each, up to a line that fails. The state is only the
    store: nothing is counted and nothing is limited but factorials. -/
def returned (limit : Int) : Store → List Text → List Text
  | _, [] => []
  | store, raw :: rest =>
    if isSkipped (trim raw) then returned limit store rest
    else match Statement.run limit store (trim raw) with
      | .ok effect => effect.shown :: returned limit (effect.store store) rest
      | .error _ => []

/-- The texts that lines show, without the empty ones. -/
def shownBy (limit : Int) (store : Store) (ls : List Text) : List Text :=
  (returned limit store ls).filter fun t => !t.isEmpty

theorem length_returned_le (limit : Int) (store : Store) (ls : List Text) :
    (returned limit store ls).length ≤ (dispatched ls).length := by
  induction ls generalizing store with
  | nil => exact Nat.le_refl 0
  | cons raw rest ih =>
    unfold returned
    cases hsk : isSkipped (trim raw) with
    | true =>
      rw [dispatched_skipped hsk]
      exact ih store
    | false =>
      rw [dispatched_executed hsk, List.length_cons]
      split
      · next h => exact Bool.noConfusion h
      split
      · next effect _ => exact Nat.succ_le_succ (ih (effect.store store))
      · exact Nat.zero_le _

/-- A run that ends well has collected what its lines show. -/
theorem runLines_shownBy {number : Nat} {ls : List Text} {s t : State} (h : runLines limits number s ls = .ok t) :
    t.shown = (shownBy limits.maxFactorial s.store ls).reverse ++ s.shown := by
  induction ls generalizing s number with
  | nil =>
    obtain rfl := Except.ok.inj h
    rfl
  | cons raw rest ih =>
    cases hn : s.next limits number raw with
    | error stop => rw [runLines_cons_error hn] at h; cases h
    | ok u =>
      rw [runLines_cons_ok hn] at h
      rcases State.next_ok hn with ⟨hsk, rfl⟩ | ⟨hsk, hst⟩
      · rw [ih h, shownBy, shownBy, returned, if_pos hsk]
      · obtain ⟨effect, hstep⟩ := State.stepped hst
        have hreturned : returned limits.maxFactorial s.store (raw :: rest) =
            effect.shown :: returned limits.maxFactorial u.store rest := by
          rw [returned, if_neg (by simp [hsk]), hstep.runs, hstep.store]
        rw [ih h, shownBy, shownBy, hreturned]
        rcases hstep.shown with ⟨hnil, -, hu⟩ | ⟨hne, -, -, hu⟩
        · rw [List.filter_cons_of_neg (by simp [hnil]), hu]
        · rw [List.filter_cons_of_pos (by simpa using hne), hu, List.reverse_cons, List.append_assoc]
          rfl

theorem execute_shownBy (h : execute limits code = .ok shown) :
    shown = shownBy limits.maxFactorial .empty (lines code) := by
  obtain ⟨t, hrun, rfl⟩ := execute_ok_iff.mp h
  have hinitial : State.initial.shown = [] := rfl
  rw [runLines_shownBy hrun, hinitial, List.append_nil, List.reverse_reverse]
  rfl

/-- Whatever a program shows stays within one line. -/
theorem oneLine_of_mem_shown (h : execute limits code = .ok shown) {text : Text} (ht : text ∈ shown) : text.OneLine :=
  execute_over plain_oneLine (fun _ hl => oneLine_of_mem_lines hl) h text ht

theorem output_of_ne_nil (h : shown ≠ []) : output shown = ofLines shown := by
  rw [output, if_neg (by simpa using h)]
  rfl

theorem lines_output (h : execute limits code = .ok shown) (hne : shown ≠ []) : lines (output shown) = shown := by
  rw [output_of_ne_nil hne]
  exact lines_ofLines fun _ ht => oneLine_of_mem_shown h ht

/-- The output for a program that shows nothing is that of no other program: it has no line end. -/
theorem output_eq_silent_iff : output shown = silentOutput ↔ shown = [] := by
  constructor
  · intro h
    by_contra hne
    obtain ⟨text, more, rfl⟩ := List.exists_cons_of_ne_nil hne
    rw [output_of_ne_nil hne, ofLines_cons] at h
    have hfeed : CodePoint.char '\n' ∈ silentOutput := by
      rw [← h]
      exact List.mem_append_right _ List.mem_cons_self
    exact absurd hfeed (by decide)
  · rintro rfl
    rfl

/-- How the texts shown are framed in an output, and what bounds them. -/
structure Framed (limits : Limits) (code : Text) (shown : List Text) (output : Text) : Prop where
  silent : output = silentOutput ↔ shown = []
  lines : shown ≠ [] → lines output = shown
  length : shown ≠ [] → output.length = (shown.map fun t => t.length + 1).sum
  within : shown ≠ [] → (output.length : Int) ≤ limits.maxOutput
  fewer : shown.length ≤ (dispatched (Text.lines code)).length
  steps : dispatched (Text.lines code) = [] ∨ ((dispatched (Text.lines code)).length : Int) ≤ limits.maxSteps

theorem framed_output (h : execute limits code = .ok shown) : Framed limits code shown (output shown) where
  silent := output_eq_silent_iff
  lines := lines_output h
  length := length_output
  within hne := (execute_chars h).resolve_left hne
  fewer := by
    rw [execute_shownBy h, shownBy]
    exact (List.length_filter_le _ _).trans (length_returned_le _ _ _)
  steps := execute_steps h

end Program

open Program

/-- The output of a run that succeeds has one line for each of the texts that its lines show. -/
theorem run_output_framed {d : Defaults} (serve : Worker.Request → Except Fault Worker.Exchange)
    {settings : Settings} {limits : Limits} (hl : settings.limits d = .ok limits)
    (hw : settings.usesWorker = false) (code : Text) {r : Report} (hr : run d serve settings code = .ok r)
    (hok : r.error = none) :
    ∃ output, r.output = .str output ∧
      Framed limits code (shownBy limits.maxFactorial .empty (Text.lines code)) output := by
  rw [run_here hl hw] at hr
  obtain rfl := Except.ok.inj hr
  unfold Report.ofProgram at hok ⊢
  split at hok
  · next shown he =>
    rw [← execute_shownBy he]
    exact ⟨_, rfl, framed_output he⟩
  · cases hok

/-- A text that a marker brings into a greeting stands in one line of the output, as a print does. -/
theorem run_output_framed_greeting :
    ∃ r, run .standard Worker.serve [] "let x = \"you\"\ngreet(name: \"\\(x)\")\nprint(-7)".toText = .ok r ∧
      Framed .default "let x = \"you\"\ngreet(name: \"\\(x)\")\nprint(-7)".toText
        ["Hello, you!".toText, "-7".toText] "Hello, you!\n-7\n".toText := by
  have hlimits : Settings.limits .standard [] = .ok .default := rfl
  have hrun : run .standard Worker.serve [] "let x = \"you\"\ngreet(name: \"\\(x)\")\nprint(-7)".toText =
      .ok (.success (.str "Hello, you!\n-7\n".toText)) := rfl
  obtain ⟨output, houtput, hframed⟩ := run_output_framed Worker.serve hlimits rfl _ hrun rfl
  obtain rfl := Json.str.inj houtput
  exact ⟨_, hrun, hframed⟩

end LineScript
