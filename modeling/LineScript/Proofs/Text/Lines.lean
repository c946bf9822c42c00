import LineScript.Text.Lines

/-! Lines and the texts they make up. No line holds a boundary, and lines without boundaries, each
    ended by a line feed, are the lines of the text they form. So every list of first lines of a text
    is the list of all lines of some text. -/

namespace LineScript.Text

/-- The text in which each of the lines ends with a line feed. -/
def ofLines (ls : List Text) : Text := ls.flatMap (· ++ "\n".toText)

@[simp] theorem ofLines_nil : ofLines [] = [] := rfl

@[simp] theorem ofLines_cons (l : Text) (ls : List Text) :
    ofLines (l :: ls) = l ++ .char '\n' :: ofLines ls := by
  have feed : "\n".toText = [.char '\n'] := rfl
  simp [ofLines, feed]

theorem isLineBreak_feed : isLineBreak (.char '\n') = true := by decide

theorem isLineBreak_return : isLineBreak (.char '\r') = true := by decide

theorem lines_feed (rest : Text) : lines (.char '\n' :: rest) = [] :: lines rest := by
  simp [lines, isLineBreak_feed]

/-- A code point that ends no line is put in front of the first line. -/
theorem lines_cons {c : CodePoint} (hc : isLineBreak c = false) (rest : Text) :
    lines (c :: rest) = match lines rest with
      | [] => [[c]]
      | line :: more => (c :: line) :: more := by
  have hr : c ≠ .char '\r' := by
    rintro rfl
    rw [isLineBreak_return] at hc
    cases hc
  rw [lines.eq_3 c rest fun _ h _ => hr h, hc]
  rfl

theorem lines_append_feed {l : Text} (hl : ∀ c ∈ l, isLineBreak c = false) (rest : Text) :
    lines (l ++ .char '\n' :: rest) = l :: lines rest := by
  induction l with
  | nil => exact lines_feed rest
  | cons c l ih =>
    have hc := hl c List.mem_cons_self
    have hls : ∀ c ∈ l, isLineBreak c = false := fun d hd => hl d (List.mem_cons_of_mem _ hd)
    rw [List.cons_append, lines_cons hc, ih hls]

theorem lines_ofLines {ls : List Text} (h : ∀ l ∈ ls, ∀ c ∈ l, isLineBreak c = false) :
    lines (ofLines ls) = ls := by
  induction ls with
  | nil => rfl
  | cons l ls ih =>
    rw [ofLines_cons, lines_append_feed (h l List.mem_cons_self),
      ih fun l' hl' => h l' (List.mem_cons_of_mem _ hl')]

/-- A line is made of code points of the text, and none of them is a boundary. -/
theorem mem_of_mem_lines {t l : Text} (hl : l ∈ lines t) {c : CodePoint} (hc : c ∈ l) :
    c ∈ t ∧ isLineBreak c = false := by
  fun_induction lines t generalizing l with
  | case1 => cases hl
  | case2 rest ih =>
    rcases List.mem_cons.mp hl with rfl | hl
    · cases hc
    · exact ⟨by simp [(ih hl hc).1], (ih hl hc).2⟩
  | case3 d rest _ hd ih =>
    rcases List.mem_cons.mp hl with rfl | hl
    · cases hc
    · exact ⟨List.mem_cons_of_mem _ (ih hl hc).1, (ih hl hc).2⟩
  | case4 d rest _ hd hrest =>
    obtain rfl := List.mem_singleton.mp hl
    obtain rfl := List.mem_singleton.mp hc
    exact ⟨List.mem_cons_self, by simpa using hd⟩
  | case5 d rest _ hd line more hrest ih =>
    rw [hrest] at ih
    rcases List.mem_cons.mp hl with rfl | hl
    · rcases List.mem_cons.mp hc with rfl | hc
      · exact ⟨List.mem_cons_self, by simpa using hd⟩
      · exact ⟨List.mem_cons_of_mem _ (ih List.mem_cons_self hc).1, (ih List.mem_cons_self hc).2⟩
    · exact ⟨List.mem_cons_of_mem _ (ih (List.mem_cons_of_mem _ hl) hc).1,
        (ih (List.mem_cons_of_mem _ hl) hc).2⟩

/-- A carriage return alone ends a line, as a line feed does. -/
theorem lines_return {rest : Text} (h : ∀ more, rest ≠ .char '\n' :: more) :
    lines (.char '\r' :: rest) = [] :: lines rest := by
  rw [lines.eq_3 (.char '\r') rest fun more _ => h more, isLineBreak_return]
  rfl

/-- Line ends that are unified are line ends as before, and no line is split or joined. -/
theorem lines_unifyBreaks (t : Text) : lines (unifyBreaks t) = lines t := by
  fun_induction unifyBreaks t with
  | case1 => rfl
  | case2 rest ih => rw [lines_feed, ih, lines]
  | case3 c rest hpair ih =>
    by_cases hc : c = .char '\r'
    · have hrest : ∀ more, rest ≠ .char '\n' :: more := fun more => hpair more hc
      rw [if_pos hc, hc, lines_feed, ih, lines_return hrest]
    · rw [if_neg hc, lines.eq_3 c (unifyBreaks rest) fun _ h => absurd h hc, lines.eq_3 c rest fun _ h => absurd h hc, ih]

/-- The first lines of a text are all the lines of another one. -/
theorem lines_ofLines_take (t : Text) (k : Nat) : lines (ofLines ((lines t).take k)) = (lines t).take k :=
  lines_ofLines fun _ hl _ hc => (mem_of_mem_lines (List.mem_of_mem_take hl) hc).2

end LineScript.Text
