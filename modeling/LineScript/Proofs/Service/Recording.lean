import LineScript.Proofs.Archive.RunLog
import LineScript.Proofs.Run.Outcome
import LineScript.Service.Floor
import Mathlib.Data.List.Perm.Basic

/-! Answers to runs and the log of runs. A run is answered from its report alone, and the report is recorded in one
    row unless the answer itself says that it is not: it is an error of the service, or it warns. So the log
    can be read off the answers, in whatever order the runs come to their end. -/

namespace LineScript.Service

/-! ### Reading an answer -/

/-- The code that the errors of an answer give. -/
def errorCode? : Json → Option Text
  | .obj members =>
    match Json.lookup Failure.codeKey members with
    | some (.str code) => some code
    | _ => none
  | _ => none

/-- The length of a text, a list or an object. -/
def extent? : Json → Option Nat
  | .str t => some t.length
  | .arr items => some items.length
  | .obj members => some members.length
  | _ => none

/-- Whether by its answer a run is in the log: the service has not failed on the request, and warns of nothing. -/
def RunAnswer.isRecorded (answer : RunAnswer) : Bool :=
  errorCode? answer.errors != some "SERVER_ERROR".toText && answer.warnings.isEmpty

/-- Whether a run is asked for under a name with that key. -/
def RunRequest.isFor (key : Text) (request : RunRequest) : Bool :=
  (request.fileName.bind fun name => (Archive.normalizeName (.str name)).toOption) == some key

/-- The row says of a run what the answer says of it. -/
structure Records (v : Visit) (answer : RunAnswer) (row : Archive.RunRow) : Prop where
  succeeded : row.status = "ok".toText ↔ answer.errors = .null
  failed : row.status = "error".toText ↔ answer.errors ≠ .null
  errorCode : (answer.errors = .null ∧ row.errorCode = none) ∨
    ∃ code, errorCode? answer.errors = some code ∧ row.errorCode = some code
  outputChars : ∃ n : Nat, extent? answer.output = some n ∧ row.outputChars = .integer n
  unnamed : v.request.fileName = none ∨ v.request.fileName = some [] → row.fileName = none
  named : ∀ name, v.request.fileName = some name → name ≠ [] →
    ∃ key, Archive.normalizeName (.str name) = .ok key ∧ row.fileName = some key
  duration : row.duration = .integer v.duration

/-- The answer to a visit, and the archive after it. -/
def Visit.concluded (v : Visit) (clock : Archive.Clock) (a : Archive) : RunAnswer × Archive :=
  runCode v.serve clock v.duration a v.request

variable {clock : Archive.Clock} {a b : Archive} {v : Visit} {r : Report} {serve : Worker.Request → Except Fault Worker.Exchange}

/-! ### Reports -/

/-- A report has an output that is a text or counts as true, or it has an error and no output. -/
inductive Whole : Report → Prop where
  | success {output : Json} (h : (∃ t, output = .str t) ∨ output.truthy = true) : Whole (.success output)
  | failure (f : Failure) : Whole (.failure f)

theorem whole_ofProgram (limits : Limits) (code : Text) : Whole (.ofProgram limits code) := by
  unfold Report.ofProgram
  split
  · exact .success (Or.inl ⟨_, rfl⟩)
  · exact .failure _

theorem whole_ofExchange {e : Worker.Exchange} (h : Worker.ofExchange e = .ok r) : Whole r := by
  rcases Worker.ofExchange_cases e with ⟨f, hf⟩ | ⟨fault, hraises⟩ | ⟨output, hshows⟩
  · obtain rfl := Except.ok.inj (hf.symm.trans h)
    exact .failure f
  · rw [Worker.ofExchange_raises hraises] at h
    cases h
  · obtain rfl := Except.ok.inj ((Worker.ofExchange_shows hshows).symm.trans h)
    refine .success ?_
    cases hshows with
    | reply _ hreply =>
      cases hreply with
      | output _ _ htruthy => exact Or.inr htruthy
      | silent _ _ => exact Or.inl ⟨_, rfl⟩

theorem whole_run {settings : Settings} {code : Text} (h : run .standard serve settings code = .ok r) : Whole r := by
  obtain ⟨limits, -, h⟩ := bind_ok_iff.mp h
  split at h
  · obtain ⟨request, -, h⟩ := bind_ok_iff.mp h
    obtain ⟨exchange, -, h⟩ := bind_ok_iff.mp h
    exact whole_ofExchange h
  · obtain rfl := Except.ok.inj h
    exact whole_ofProgram limits code

theorem whole_attempt {request : RunRequest} (h : attempt serve request = .ok r) : Whole r := by
  obtain ⟨caps, -, h⟩ := bind_ok_iff.mp h
  obtain rfl := Except.ok.inj h
  unfold Runner.report
  split
  · next hrun => exact whole_run hrun
  · exact .failure _

/-! ### Recording a report -/

/-- The name for the log is none, or the key of the name that was given. -/
theorem recordName_ok {fileName : Option Text} {name : Json} (h : recordName fileName = .ok name) :
    (∃ key?, name = .ofText? key? ∧ (fileName = none ∨ fileName = some [] → key? = none) ∧
      ∀ given, fileName = some given → given ≠ [] → ∃ key, Archive.normalizeName (.str given) = .ok key ∧ key? = some key) := by
  unfold recordName at h
  split at h
  · obtain rfl := Except.ok.inj h
    exact ⟨none, rfl, fun _ => rfl, fun _ h => nomatch h⟩
  · obtain rfl := Except.ok.inj h
    refine ⟨none, rfl, fun _ => rfl, ?_⟩
    rintro _ h hne
    exact absurd (Option.some.inj h).symm hne
  · next given hgiven =>
    cases hkey : Archive.normalizeName (.str given) with
    | error e => rw [hkey] at h; cases h
    | ok key =>
      rw [hkey] at h
      obtain rfl := Except.ok.inj h
      refine ⟨some key, rfl, ?_, ?_⟩
      · rintro (h | h)
        · cases h
        · exact absurd (Option.some.inj h) hgiven
      · rintro _ h -
        obtain rfl := Option.some.inj h
        exact ⟨key, hkey, rfl⟩

theorem extent?_of_truthy {output : Json} {n : Nat} (htruthy : output.truthy = true) (h : outputLength output = .ok n) :
    extent? output = some n := by
  cases output with
  | str t => exact congrArg some (Except.ok.inj h)
  | arr items => exact congrArg some (Except.ok.inj h)
  | obj members => exact congrArg some (Except.ok.inj h)
  | _ => simp [outputLength, htruthy] at h

/-- What is recorded as the length of an output is the length of the output that is answered. -/
theorem extent?_ofReport (hr : Whole r) {n : Nat} (h : outputLength r.output = .ok n) :
    extent? (RunAnswer.ofReport r).output = some n := by
  cases hr with
  | success houtput =>
    rcases houtput with ⟨t, rfl⟩ | htruthy
    · exact congrArg some (Except.ok.inj h)
    · exact extent?_of_truthy htruthy h
  | failure f => exact congrArg some (Except.ok.inj h)

/-- The row that is made of a report says what its answer says. -/
theorem records_of_runRow (hr : Whole r) {id : Nat} {now : Text} {name : Json} {length : Nat} {row : Archive.RunRow}
    (hname : recordName v.request.fileName = .ok name) (hlength : outputLength r.output = .ok length)
    (hrow : Archive.runRow id now name (.str (if r.ok then "ok" else "error").toText)
      (.ofText? (r.error.map fun f => f.kind.code)) (.int length) (.int v.duration) = .ok row) :
    row.id = id ∧ Records v (.ofReport r) row := by
  obtain ⟨key?, rfl, hunnamed, hnamed⟩ := recordName_ok hname
  obtain ⟨file, state, code, chars, time, shown, ⟨hfile, hstate, hcode, hchars, htime⟩, hshown, rfl⟩ :=
    Archive.runRow_ok hrow
  obtain rfl := Archive.cell_str hstate
  obtain rfl := Option.some.inj hshown
  obtain rfl := Archive.cell_int hchars
  obtain rfl := Archive.cell_int htime
  have hkey := Archive.cell_ofText? hfile
  have herror := Archive.cell_ofText? hcode
  have hextent := extent?_ofReport hr hlength
  refine ⟨rfl, ?_, ?_, ?_, ⟨length, hextent, rfl⟩, ?_, ?_, rfl⟩
  · cases hr with
    | success h => exact ⟨fun _ => rfl, fun _ => congrArg String.toText (if_pos rfl)⟩
    | failure f =>
      have hstatus : (if (Report.failure f).ok = true then "ok" else "error") = "error" := if_neg Bool.false_ne_true
      exact ⟨fun h => absurd (hstatus ▸ h : "error".toText = "ok".toText) (by decide), fun h => nomatch h⟩
  · cases hr with
    | @success output h =>
      have hstatus : (if (Report.success output).ok = true then "ok" else "error") = "ok" := if_pos rfl
      exact ⟨fun h => absurd (hstatus ▸ h : "ok".toText = "error".toText) (by decide), fun h => absurd rfl h⟩
    | failure f =>
      constructor
      · exact fun _ h => nomatch h
      · exact fun _ => congrArg String.toText (if_neg Bool.false_ne_true)
  · cases hr with
    | success h => exact Or.inl ⟨rfl, herror⟩
    | failure f => exact Or.inr ⟨f.kind.code, rfl, herror⟩
  · exact fun h => hkey.trans (hunnamed h)
  · intro given hgiven hne
    obtain ⟨key, hnormal, hsome⟩ := hnamed given hgiven hne
    exact ⟨key, hnormal, hkey.trans hsome⟩

/-- A report is recorded in one row, which says what the answer says, or the tables stay as they are. -/
theorem record_cases (clock : Archive.Clock) (v : Visit) (a : Archive) (hr : Whole r) :
    (∃ t row, a.tables = some t ∧ row.id = Archive.nextId t.runs ∧ Records v (.ofReport r) row ∧
      record clock v.duration a v.request.fileName r =
        (.ok row.id, ⟨some { t with runs := row :: t.runs }, a.readings + 1⟩)) ∨
    ∃ e b, record clock v.duration a v.request.fileName r = (.error e, b) ∧ b.tables = a.tables := by
  unfold record
  cases hname : recordName v.request.fileName with
  | error e => exact Or.inr ⟨_, _, rfl, rfl⟩
  | ok name =>
    cases hlength : outputLength r.output with
    | error e => exact Or.inr ⟨_, _, rfl, rfl⟩
    | ok length =>
      rcases Archive.saveRun_cases clock a name (.str (if r.ok then "ok" else "error").toText)
        (.ofText? (r.error.map fun f => f.kind.code)) (.int length) (.int v.duration) with
        ⟨t, row, ht, hrow, heq⟩ | ⟨e, heq⟩
      · obtain ⟨hid, hrecords⟩ := records_of_runRow hr hname hlength hrow
        refine Or.inl ⟨t, row, ht, hid, hrecords, ?_⟩
        simp only [heq]
        rfl
      · refine Or.inr ⟨.refused e, { a with readings := a.readings + 1 }, ?_, rfl⟩
        simp only [heq]
        rfl

/-! ### One request -/

theorem ErrorKind.code_ne (kind : ErrorKind) : kind.code ≠ "SERVER_ERROR".toText := by
  cases kind <;> decide

/-- The answer of a report warns of nothing, and no error of a program is one of the service. -/
theorem isRecorded_ofReport (hr : Whole r) : (RunAnswer.ofReport r).isRecorded = true := by
  cases hr with
  | success h => rfl
  | failure f =>
    have hcode : errorCode? (RunAnswer.ofReport (.failure f)).errors = some f.kind.code := rfl
    rw [RunAnswer.isRecorded, hcode, Bool.and_eq_true_iff]
    exact ⟨bne_iff_ne.mpr fun h => ErrorKind.code_ne f.kind (Option.some.inj h), rfl⟩

/-- The answers show the same, so that they differ in their warnings at most. -/
structure SameShown (x y : RunAnswer) : Prop where
  output : x.output = y.output
  errors : x.errors = y.errors
  rendered : x.rendered = y.rendered

/-- An answer is the one that the report gives by itself, but for the warnings. -/
theorem conclude_ok (clock : Archive.Clock) (v : Visit) (a : Archive) (hr : Whole r) :
    (∃ t row, a.tables = some t ∧ row.id = Archive.nextId t.runs ∧ Records v (.ofReport r) row ∧
      conclude clock v.duration a v.request.fileName (.ok r) =
        (.ofReport r, ⟨some { t with runs := row :: t.runs }, a.readings + 1⟩)) ∨
    ∃ warning b, conclude clock v.duration a v.request.fileName (.ok r) =
      ({ RunAnswer.ofReport r with warnings := [warning] }, b) ∧ b.tables = a.tables := by
  rw [conclude]
  rcases record_cases clock v a hr with ⟨t, row, ht, hid, hrecords, heq⟩ | ⟨e, b, heq, hb⟩
  · rw [heq]
    exact Or.inl ⟨t, row, ht, hid, hrecords, rfl⟩
  · rw [heq]
    exact Or.inr ⟨_, b, rfl, hb⟩

/-- What is shown to a visit is what its report gives by itself, or the failure of the service. -/
def Visit.plain (v : Visit) : RunAnswer :=
  match attempt v.serve v.request with
  | .ok r => .ofReport r
  | .error fault => .refused fault

theorem sameShown_plain (clock : Archive.Clock) (v : Visit) (a : Archive) : SameShown (v.concluded clock a).1 v.plain := by
  unfold Visit.concluded runCode Visit.plain
  cases hattempt : attempt v.serve v.request with
  | error fault => exact ⟨rfl, rfl, rfl⟩
  | ok r =>
    rcases conclude_ok clock v a (whole_attempt hattempt) with ⟨t, row, -, -, -, heq⟩ | ⟨warning, b, heq, -⟩
    · rw [heq]
      exact ⟨rfl, rfl, rfl⟩
    · rw [heq]
      exact ⟨rfl, rfl, rfl⟩

/-- What a visit is answered on an archive, and what becomes of the archive. -/
structure Agrees (clock : Archive.Clock) (v : Visit) (a : Archive) : Prop where
  /-- On every other archive the same is shown. -/
  shown : ∀ other b, SameShown (v.concluded clock a).1 (v.concluded other b).1
  recorded : (v.concluded clock a).1.isRecorded = true → ∃ t row, a.tables = some t ∧
    (v.concluded clock a).2.tables = some { t with runs := row :: t.runs } ∧
    row.id = Archive.nextId t.runs ∧ Records v (v.concluded clock a).1 row
  unrecorded : (v.concluded clock a).1.isRecorded = false → (v.concluded clock a).2.tables = a.tables

theorem agrees (clock : Archive.Clock) (v : Visit) (a : Archive) : Agrees clock v a := by
  have hshown : ∀ other b, SameShown (v.concluded clock a).1 (v.concluded other b).1 := by
    intro other b
    have hthis := sameShown_plain clock v a
    have hother := sameShown_plain other v b
    exact ⟨hthis.output.trans hother.output.symm, hthis.errors.trans hother.errors.symm,
      hthis.rendered.trans hother.rendered.symm⟩
  cases hattempt : attempt v.serve v.request with
  | error fault =>
    have heq : v.concluded clock a = (.refused fault, a) := by rw [Visit.concluded, runCode, hattempt, conclude]
    refine ⟨hshown, fun h => ?_, fun _ => ?_⟩
    · rw [heq] at h
      cases h
    · rw [heq]
  | ok r =>
    have hwhole := whole_attempt hattempt
    have hconclude : v.concluded clock a = conclude clock v.duration a v.request.fileName (.ok r) := by
      rw [Visit.concluded, runCode, hattempt]
    rcases conclude_ok clock v a hwhole with ⟨t, row, ht, hid, hrecords, heq⟩ | ⟨warning, b, heq, hb⟩
    · refine ⟨hshown, fun _ => ⟨t, row, ht, ?_, hid, ?_⟩, fun h => ?_⟩
      · rw [hconclude, heq]
      · rw [hconclude, heq]
        exact hrecords
      · rw [hconclude, heq, isRecorded_ofReport hwhole] at h
        cases h
    · refine ⟨hshown, fun h => ?_, fun _ => ?_⟩
      · rw [hconclude, heq, RunAnswer.isRecorded, Bool.and_eq_true_iff] at h
        cases h.2
      · rw [hconclude, heq]
        exact hb

/-! ### Many requests -/

variable {f : Floor} {events : List Event}

/-- The visits that have arrived, wherever on the floor they are. -/
def Floor.visits (f : Floor) : List Visit := f.running ++ f.ended.map Prod.fst ++ f.answered.map Prod.fst

/-- The visit that arrives with the event. -/
def Event.arrival? : Event → Option Visit
  | .arrive v => some v
  | _ => none

theorem perm_eraseIdx {α : Type} {l : List α} {i : Nat} {x : α} (h : l[i]? = some x) : l.Perm (x :: l.eraseIdx i) := by
  obtain ⟨hi, rfl⟩ := List.getElem?_eq_some_iff.mp h
  exact (List.getElem_cons_eraseIdx_perm hi).symm

theorem visits_finish (f : Floor) (i : Nat) : (f.finish i).visits.Perm f.visits := by
  unfold Floor.finish
  split
  · exact .refl _
  · next v hv =>
    refine List.Perm.append_right _ ?_
    exact List.perm_middle.trans ((perm_eraseIdx hv).symm.append_right _)

theorem visits_answer (clock : Archive.Clock) (f : Floor) (i : Nat) : (f.answer clock i).visits.Perm f.visits := by
  unfold Floor.answer
  split
  · exact .refl _
  · next v outcome hv =>
    have hended : (f.ended.map Prod.fst).Perm (v :: (f.ended.eraseIdx i).map Prod.fst) := (perm_eraseIdx hv).map Prod.fst
    refine List.perm_middle.trans (List.Perm.trans ?_ (((hended.append_left f.running).append_right _).symm))
    exact (List.perm_middle.symm.append_right _)

/-- Of the visits none is lost and none is made up. -/
theorem visits_step (clock : Archive.Clock) (f : Floor) (e : Event) :
    (f.step clock e).visits.Perm (e.arrival?.toList ++ f.visits) := by
  cases e with
  | arrive v =>
    change ((f.running ++ [v]) ++ _ ++ _).Perm (v :: (f.running ++ _ ++ _))
    rw [List.append_assoc, List.append_assoc, List.append_assoc]
    exact List.perm_middle
  | finish i => exact visits_finish f i
  | answer i => exact visits_answer clock f i
  | save name content | delete name | startUp => exact .refl _

theorem visits_run (clock : Archive.Clock) (f : Floor) (events : List Event) :
    (f.run clock events).visits.Perm (events.filterMap Event.arrival? ++ f.visits) := by
  induction events generalizing f with
  | nil => exact .refl _
  | cons e rest ih =>
    have hstep := (visits_step clock f e).append_left (rest.filterMap Event.arrival?)
    have hrest := (ih (f.step clock e)).trans hstep
    refine hrest.trans ?_
    rw [← List.append_assoc]
    refine List.Perm.append_right _ (List.perm_append_comm.trans ?_)
    cases harrival : e.arrival? with
    | none => rw [List.filterMap_cons_none harrival]; exact .refl _
    | some v => rw [List.filterMap_cons_some harrival]; exact .refl _

/-- A recorded run: who asked for it, the answer, and the row. -/
structure Entry where
  visit : Visit
  answer : RunAnswer
  row : Archive.RunRow

/-- The rows that a floor has put on the log of an archive, with the answers that they go back to. -/
structure Logs (clock : Archive.Clock) (a : Archive) (f : Floor) (log : List Entry) : Prop where
  ended : ∀ p ∈ f.ended, p.2 = attempt p.1.serve p.1.request
  answered : ∀ p ∈ f.answered, ∃ b, p.2 = (p.1.concluded clock b).1
  recorded : log.map (fun e => (e.visit, e.answer)) = f.answered.filter fun p => p.2.isRecorded
  records : ∀ e ∈ log, Records e.visit e.answer e.row
  rows : f.archive.runs = log.map Entry.row ++ a.runs
  numbered : Archive.Numbered a.runs → Archive.Numbered f.archive.runs

theorem logs_opened (clock : Archive.Clock) (a : Archive) : Logs clock a (.opened a) [] where
  ended _ h := absurd h List.not_mem_nil
  answered _ h := absurd h List.not_mem_nil
  recorded := rfl
  records _ h := absurd h List.not_mem_nil
  rows := rfl
  numbered h := h

/-- What leaves the log of an archive alone can be done at any time. -/
theorem Logs.aside {log : List Entry} (h : Logs clock a f log) (hb : b.runs = f.archive.runs) :
    Logs clock a { f with archive := b } log where
  ended := h.ended
  answered := h.answered
  recorded := h.recorded
  records := h.records
  rows := hb.trans h.rows
  numbered hnumbered := by
    rw [hb]
    exact h.numbered hnumbered

theorem Logs.finish {log : List Entry} (h : Logs clock a f log) (i : Nat) : Logs clock a (f.finish i) log := by
  unfold Floor.finish
  split
  · exact h
  · next v hv =>
    refine { h with ended := ?_ }
    rintro p hp
    rcases List.mem_cons.mp hp with rfl | hp
    · rfl
    · exact h.ended p hp

theorem Floor.answer_eq {i : Nat} (hv : f.ended[i]? = some (v, attempt v.serve v.request)) :
    f.answer clock i = ⟨(v.concluded clock f.archive).2, f.running, f.ended.eraseIdx i,
      (v, (v.concluded clock f.archive).1) :: f.answered⟩ := by
  rw [Floor.answer, hv]
  rfl

/-- An answer adds an entry to the log when it says so. -/
theorem Logs.answer {log : List Entry} (h : Logs clock a f log) (i : Nat) :
    ∃ log', Logs clock a (f.answer clock i) log' := by
  cases hv : f.ended[i]? with
  | none =>
    rw [Floor.answer, hv]
    exact ⟨log, h⟩
  | some p =>
    obtain ⟨v, outcome⟩ := p
    obtain rfl : outcome = attempt v.serve v.request := h.ended _ (List.mem_of_getElem? hv)
    have hagrees := agrees clock v f.archive
    have hended : ∀ p ∈ f.ended.eraseIdx i, p.2 = attempt p.1.serve p.1.request :=
      fun p hp => h.ended p (List.mem_of_mem_eraseIdx hp)
    have hanswered : ∀ p ∈ (v, (v.concluded clock f.archive).1) :: f.answered, ∃ b, p.2 = (p.1.concluded clock b).1 := by
      intro p hp
      rcases List.mem_cons.mp hp with rfl | hp
      · exact ⟨f.archive, rfl⟩
      · exact h.answered p hp
    rw [Floor.answer_eq hv]
    cases hrecorded : (v.concluded clock f.archive).1.isRecorded with
    | false =>
      have hruns := Archive.runs_congr (hagrees.unrecorded hrecorded)
      refine ⟨log, hended, hanswered, ?_, h.records, hruns.trans h.rows, fun hnumbered => ?_⟩
      · rw [List.filter_cons, if_neg (by rw [hrecorded]; exact Bool.false_ne_true)]
        exact h.recorded
      · rw [hruns]
        exact h.numbered hnumbered
    | true =>
      obtain ⟨t, row, ht, htables, hid, hrecords⟩ := hagrees.recorded hrecorded
      have hruns : (v.concluded clock f.archive).2.runs = row :: f.archive.runs := by
        rw [Archive.runs_eq htables, Archive.runs_eq ht]
      refine ⟨⟨v, (v.concluded clock f.archive).1, row⟩ :: log, hended, hanswered, ?_, ?_, ?_, fun hnumbered => ?_⟩
      · rw [List.filter_cons, if_pos hrecorded, ← h.recorded]
        rfl
      · exact List.forall_mem_cons.mpr ⟨hrecords, h.records⟩
      · rw [hruns, h.rows]
        rfl
      · have hbefore := h.numbered hnumbered
        rw [Archive.runs_eq ht] at hbefore
        rw [hruns, Archive.runs_eq ht]
        exact Archive.numbered_cons hbefore hid

theorem Logs.step {log : List Entry} (h : Logs clock a f log) (e : Event) : ∃ log', Logs clock a (f.step clock e) log' := by
  cases e with
  | arrive v => exact ⟨log, { h with }⟩
  | finish i => exact ⟨log, h.finish i⟩
  | answer i => exact h.answer i
  | save name content => exact ⟨log, h.aside (Archive.saveFile_runs clock f.archive (.str name) (.str content))⟩
  | delete name => exact ⟨log, h.aside (Archive.deleteFile_runs f.archive (.str name))⟩
  | startUp => exact ⟨log, h.aside (Archive.startUp_runs clock f.archive)⟩

theorem Logs.run {log : List Entry} (h : Logs clock a f log) (events : List Event) :
    ∃ log', Logs clock a (f.run clock events) log' := by
  induction events generalizing f log with
  | nil => exact ⟨log, h⟩
  | cons e rest ih =>
    obtain ⟨log', h'⟩ := h.step e
    exact ih h'

/-! ### Listing -/

theorem Records.isFor {answer : RunAnswer} {row : Archive.RunRow} (h : Records v answer row) (key : Text) :
    v.request.isFor key = (row.fileName == some key) := by
  unfold RunRequest.isFor
  cases hname : v.request.fileName with
  | none => rw [h.unnamed (Or.inl hname)]; rfl
  | some name =>
    cases hempty : name with
    | nil =>
      rw [h.unnamed (Or.inr (by rw [hname, hempty]))]
      rfl
    | cons c rest =>
      obtain ⟨k, hk, hrow⟩ := h.named name hname (by rw [hempty]; exact List.cons_ne_nil c rest)
      rw [hrow, ← hempty, Option.bind_some, hk]
      rfl

/-- On a log that a floor has begun, the rows listed under a name are those of the runs that were asked for under
    a name with the same key. -/
theorem Logs.listed {log : List Entry} (h : Logs clock a f log) (hempty : a.runs = []) {t : Archive.Tables}
    (ht : f.archive.tables = some t) {name : Text} (hname : name ≠ []) :
    listStats f.archive (some name) =
      (Archive.keyOf (.str name)).map fun key => (log.filter fun e => e.visit.request.isFor key).map Entry.row := by
  have hruns : t.runs = log.map Entry.row := by
    rw [← Archive.runs_eq ht, h.rows, hempty, List.append_nil]
  have htruthy : (Json.str name).truthy = true := by simpa [Json.truthy] using hname
  refine (Archive.listRuns_named ht htruthy).trans (congrArg (fun g => (Archive.keyOf (.str name)).map g) ?_)
  funext key
  rw [hruns, List.filter_map]
  refine congrArg (List.map Entry.row) (List.filter_congr fun e he => ?_)
  exact ((h.records e he).isFor key).symm

/-- On every archive, a request for a run is answered; what is shown does not depend on the archive, and the run is
    recorded in one row just when the answer is neither an error of the service nor a warning. So, in whatever
    order the runs come to their end, the log that a service keeps can be read off its answers. -/
theorem answers_agree_with_log (clock : Archive.Clock) (a : Archive) (events : List Event) :
    (∀ v b, Agrees clock v b) ∧
    ((Floor.opened a).run clock events).visits.Perm (events.filterMap Event.arrival?) ∧
    ∃ log, Logs clock a ((Floor.opened a).run clock events) log ∧
      (a.runs = [] → ∀ t, ((Floor.opened a).run clock events).archive.tables = some t → ∀ name, name ≠ [] →
        listStats ((Floor.opened a).run clock events).archive (some name) =
          (Archive.keyOf (.str name)).map fun key => (log.filter fun e => e.visit.request.isFor key).map Entry.row) := by
  obtain ⟨log, hlog⟩ := (logs_opened clock a).run events
  refine ⟨fun v b => agrees clock v b, ?_, log, hlog, fun hempty t ht name hname => hlog.listed hempty ht hname⟩
  have hvisits := visits_run clock (.opened a) events
  rwa [show (Floor.opened a).visits = [] from rfl, List.append_nil] at hvisits

/-- Of two runs under names with one key, the second is answered first; both are listed, the later answered before. -/
theorem answers_agree_with_log_overtaking :
    ∃ events a, a = ((Floor.opened Archive.fresh.setUp).run (fun _ => []) events).archive ∧
      (events.filterMap Event.arrival?).map (fun v => v.request.fileName) = [some "a".toText, some "a.swift".toText] ∧
      a.runs.map (fun row => row.status) = ["ok".toText, "error".toText] ∧
      listStats a (some " a ".toText) = .ok a.runs := by
  let events : List Event :=
    [.arrive ⟨⟨"add(1, 2)".toText, [], some "a".toText⟩, fun _ => .error .tooDeep, 1⟩,
      .arrive ⟨⟨"add(1)".toText, [], some "a.swift".toText⟩, fun _ => .error .tooDeep, 1⟩,
      .finish 1, .finish 0, .answer 1, .answer 0]
  obtain ⟨-, -, log, hlog, hlisted⟩ := answers_agree_with_log (fun _ => []) Archive.fresh.setUp events
  refine ⟨events, _, rfl, rfl, rfl, ?_⟩
  have hkey : Archive.keyOf (.str " a ".toText) = .ok "a".toText := rfl
  have hfor : ∀ e ∈ log, e.visit.request.isFor "a".toText = true := by
    intro e he
    have hmem := List.mem_map_of_mem (f := fun e : Entry => (e.visit, e.answer)) he
    rw [hlog.recorded] at hmem
    have hall : ((((Floor.opened Archive.fresh.setUp).run (fun _ => []) events).answered.filter fun p => p.2.isRecorded).all
      fun p => p.1.request.isFor "a".toText) = true := rfl
    exact List.all_eq_true.mp hall _ hmem
  rw [hlisted rfl _ rfl _ (by decide), hkey, hlog.rows]
  exact congrArg Except.ok ((congrArg _ (List.filter_eq_self.mpr hfor)).trans (List.append_nil _).symm)

/-- A lone surrogate is a name like others, yet no rows can be looked up under it. -/
theorem stats_of_surrogate :
    Archive.normalizeName (.str [.surrogate 0]) = .ok [.surrogate 0] ∧
      listStats ((Floor.opened Archive.fresh.setUp).run (fun _ => []) []).archive (some [.surrogate 0]) =
        .error (.unencodable ⟨0, 1, .surrogate 0⟩) :=
  ⟨rfl, rfl⟩

end LineScript.Service
