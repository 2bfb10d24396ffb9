import FormulaSheet.Proofs.Log.Telling
import FormulaSheet.Sheet.File

/-!
# The log has no influence

A program that has the event log at hand tells it of what happens while an operation is done, and of
a sheet before it returns it. This module follows such a program through sessions of any length.
Whatever becomes of the events meanwhile, each operation comes to the same as the one that knows of
no log, and the log is told of the same events in the same order, as long as there is room to tell
it.

* `Workbench.performTelling_eq`, `Workbench.sessionTelling_eq`: operations and sessions that tell
  the log do what they do without one, and tell it of their events;
* `Workbench.sessionTelling_uninfluenced`: what a session returns and leaves does not depend on the
  log, on the times, or on what becomes of the events, unless there is no room to tell the log;
* `Evaluator.outcome_depends_on_log`: where there is none it does.
-/

namespace FormulaSheet

open Evaluator (noticesOf setting)

/-! ## Sessions -/

/-- Sheets and evaluators at work, by their numbers. -/
structure Workbench where
  /-- the most collections that may stand one inside another in a file -/
  limit : Nat
  /-- the sheets -/
  sheets : Nat → Sheet
  /-- the evaluators -/
  evaluators : Nat → Evaluator

/-- What is done at a workbench. -/
inductive Operation where
  /-- a cell is stored in a sheet -/
  | set (sheet : Nat) (label : Text) (formula value error : Value)
  /-- an evaluator evaluates a formula over a sheet, for the cell that has it if there is one -/
  | evaluate (evaluator sheet : Nat) (origin : Option Text) (formula : Value)
  /-- an evaluator is reset -/
  | reset (evaluator : Nat)
  /-- a sheet is made that a mapping describes -/
  | build (sheet : Nat) (spec : Value)
  /-- a sheet is loaded from a file, with the text that reading the file gives -/
  | load (sheet : Nat) (path : Text) (text : Except Fault Text)

/-- What an operation returns. -/
inductive Answer where
  /-- nothing -/
  | done
  /-- the cell that was stored -/
  | cell (c : Cell)
  /-- the outcome of an evaluation -/
  | outcome (o : Outcome)
  /-- the sheet that was made -/
  | sheet (s : Sheet)

/-- An operation that was done. -/
structure Performed where
  /-- what it has returned, or why it has not -/
  answer : Except Fault Answer
  /-- the workbench afterwards -/
  after : Workbench
  /-- what there is to tell the log, in order -/
  events : List (Text → Event)

namespace Workbench

variable (w : Surroundings) (b : Workbench)

/-- The workbench with another sheet under the number. -/
def putSheet (i : Nat) (sheet : Sheet) : Workbench :=
  { b with sheets := Function.update b.sheets i sheet }

/-- The workbench with another evaluator under the number. -/
def putEvaluator (k : Nat) (e : Evaluator) : Workbench :=
  { b with evaluators := Function.update b.evaluators k e }

/-- The operation, done without a log. -/
def perform : Operation → Performed
  | .set i label formula value error =>
    match (b.sheets i).set label formula value error with
    | .error f => ⟨.error f, b, []⟩
    | .ok (cell, sheet) => ⟨.ok (.cell cell), b.putSheet i sheet, []⟩
  | .evaluate k i origin formula =>
    let done := (b.evaluators k).evaluate (b.sheets i).source origin formula
    ⟨done.outcome.map .outcome, b.putEvaluator k done.evaluator, done.notices.map Notice.event⟩
  | .reset k => ⟨.ok .done, b.putEvaluator k (b.evaluators k).reset, []⟩
  | .build i spec =>
    match Sheet.ofSpec spec with
    | .error f => ⟨.error f, b, []⟩
    | .ok sheet => ⟨.ok (.sheet sheet), b.putSheet i sheet, []⟩
  | .load i path text =>
    match text >>= Sheet.ofFile b.limit path with
    | .error f => ⟨.error f, b, []⟩
    | .ok sheet => ⟨.ok (.sheet sheet), b.putSheet i sheet, [fun now => sheet.loadedEvent now path]⟩

/-- The operation, done with a log at hand that is told meanwhile. -/
def performTelling : Operation → StateM Recorder (Except Fault Answer × Workbench)
  | .set i label formula value error =>
    match (b.sheets i).set label formula value error with
    | .error f => pure (.error f, b)
    | .ok (cell, sheet) => pure (.ok (.cell cell), b.putSheet i sheet)
  | .evaluate k i origin formula => do
    let (e, outcome) ← (b.evaluators k).evaluateTelling w (b.sheets i).source origin formula
    pure (outcome.map .outcome, b.putEvaluator k e)
  | .reset k => pure (.ok .done, b.putEvaluator k (b.evaluators k).reset)
  | .build i spec =>
    match Sheet.ofSpec spec with
    | .error f => pure (.error f, b)
    | .ok sheet => pure (.ok (.sheet sheet), b.putSheet i sheet)
  | .load i path text =>
    match text >>= Sheet.ofFile b.limit path with
    | .error f => pure (.error f, b)
    | .ok sheet => do
      modify fun r => r.record w fun now => sheet.loadedEvent now path
      pure (.ok (.sheet sheet), b.putSheet i sheet)

/-- Operations, done one after the other without a log. -/
def session (b : Workbench) : List Operation → List Performed
  | [] => []
  | op :: ops => b.perform op :: (b.perform op).after.session ops

/-- What operations return, each with the workbench after it, when they are done one after the other
with a log at hand. -/
def sessionTelling (w : Surroundings) (b : Workbench) :
    List Operation → StateM Recorder (List (Except Fault Answer × Workbench))
  | [] => pure []
  | op :: ops => do
    let (answer, next) ← b.performTelling w op
    let more ← next.sessionTelling w ops
    pure ((answer, next) :: more)

/-- There is room for all the calls that it takes to tell the log of something. -/
def Counts : Prop :=
  ∀ k, w.costs.report ≤ (b.evaluators k).options.stack.warning

/-- There is room to tell the log of every circular reference that the operation comes to. -/
def TellsOf : Operation → Prop
  | .evaluate k i origin formula => (b.evaluators k).Tells (b.sheets i).source origin formula
  | .set _ _ _ _ _ | .reset _ | .build _ _ | .load _ _ _ => True

/-- There is room to tell the log of every circular reference that the operations come to, when they
are done one after the other. -/
def Tells (b : Workbench) : List Operation → Prop
  | [] => True
  | op :: ops => b.TellsOf op ∧ (b.perform op).after.Tells ops

variable {w : Surroundings} {b : Workbench}

/-- **An operation** does the same with a log at hand, and tells it of its events. -/
theorem performTelling_eq {op : Operation} (hw : b.Counts w) (ht : b.TellsOf op) (r : Recorder) :
    (b.performTelling w op).run r =
      (((b.perform op).answer, (b.perform op).after), r.tell w (b.perform op).events) := by
  cases op with
  | set i label formula value error =>
    unfold performTelling perform
    dsimp only
    cases (b.sheets i).set label formula value error <;> rfl
  | evaluate k i origin formula =>
    have he := Evaluator.evaluateTelling_eq (hw k) ht r
    rw [StateT.run] at he
    unfold performTelling perform
    simp only [StateT.run, bind, StateT.bind, he]
    rfl
  | reset k => rfl
  | build i spec =>
    unfold performTelling perform
    dsimp only
    cases Sheet.ofSpec spec <;> rfl
  | load i path text =>
    unfold performTelling perform
    dsimp only
    cases text >>= Sheet.ofFile b.limit path <;> rfl

/-- The evaluators keep their stacks. -/
theorem Counts.after (h : b.Counts w) (op : Operation) : (b.perform op).after.Counts w := by
  have hput (k : Nat) {e : Evaluator} (he : e.options = (b.evaluators k).options) :
      (b.putEvaluator k e).Counts w := by
    intro k'
    by_cases hk : k' = k
    · subst hk
      simp only [putEvaluator, Function.update_self, he]
      exact h k'
    · simp only [putEvaluator, Function.update_of_ne hk]
      exact h k'
  cases op with
  | set i label formula value error =>
    unfold perform
    dsimp only
    cases (b.sheets i).set label formula value error with
    | error f => exact h
    | ok stored => exact h
  | evaluate k i origin formula => exact hput k (Evaluator.options_evaluate ..)
  | reset k => exact hput k rfl
  | build i spec =>
    unfold perform
    dsimp only
    cases Sheet.ofSpec spec with
    | error f => exact h
    | ok sheet => exact h
  | load i path text =>
    unfold perform
    dsimp only
    cases text >>= Sheet.ofFile b.limit path with
    | error f => exact h
    | ok sheet => exact h

/-- **A session** does the same with a log at hand, and tells it of its events. -/
theorem sessionTelling_eq {ops : List Operation} (hw : b.Counts w) (ht : b.Tells ops)
    (r : Recorder) : (b.sessionTelling w ops).run r =
      ((b.session ops).map fun done => (done.answer, done.after),
        r.tell w ((b.session ops).flatMap Performed.events)) := by
  induction ops generalizing b r with
  | nil => rfl
  | cons op ops ih =>
    have hop := performTelling_eq hw ht.1 r
    have hrest := ih (hw.after op) ht.2 (r.tell w (b.perform op).events)
    rw [StateT.run] at hop hrest
    simp only [sessionTelling, session, StateT.run, bind, StateT.bind, hop, hrest,
      List.flatMap_cons, List.map_cons, Recorder.tell_append]
    rfl

/-- **The log has no influence.** A session in which cells are stored, formulas are evaluated,
evaluators are reset, and sheets are made and loaded, is done with a log at hand. In no evaluation
there is a circular reference so deep that there is no room to tell the log of it, even if it must
be reported that it was not written.

Whatever the log is, at whatever times the events are made, and whatever becomes of the lines: each
operation returns the same or fails with the same fault, and leaves the same sheets and evaluators,
as it does without a log. If the log is not attached, nothing is recorded and nobody is warned. The
session has the same events for every log: a log all of whose lines are kept has recorded all of
them, and so has the file of one whose lines are not refused, though they may not be forced to the
disk; to a log whose lines are refused from some event on nothing is added but the events before it.
And people are warned at most once in a minute. -/
theorem sessionTelling_uninfluenced {b : Workbench} {ops : List Operation} (ht : b.Tells ops) :
    let done w r := (b.sessionTelling w ops).run r
    let events := (b.session ops).flatMap Performed.events
    (∀ w w' r r', b.Counts w → b.Counts w' → (done w r).1 = (done w' r').1) ∧
    (∀ w r, b.Counts w → (done w r).1 = (b.session ops).map fun p => (p.answer, p.after)) ∧
    (∀ w r, b.Counts w → r.log.attached = false →
      (done w r).2.log = r.log ∧ (done w r).2.warnings = r.warnings) ∧
    (∀ w r, b.Counts w → (∀ k, w.storing k = .kept) →
      (done w r).2.log = r.log.emitAll (Recorder.stamped w r.count events)) ∧
    (∀ w r, b.Counts w → (∀ k, w.storing k ≠ .refused) → (done w r).2.log.journal =
      (r.log.emitAll (Recorder.stamped w r.count events)).journal) ∧
    (∀ w r n, b.Counts w → (∀ k, n ≤ k → w.storing k = .refused) →
      (done w r).2.log.journal = (r.tell w (events.take (n - r.count))).log.journal) ∧
    (∀ w r, b.Counts w → (∀ k, r.count ≤ k → w.storing k = .refused) →
      (done w r).2.log.journal = r.log.journal) ∧
    ∀ w r, b.Counts w → r.Spaced → (done w r).2.Spaced ∧ ∀ start,
      ((done w r).2.warnings.filter fun time =>
        start ≤ time && time < start + Recorder.interval).length ≤ 1 := by
  intro done events
  have hdone {w} (r : Recorder) (hw : b.Counts w) : done w r =
      ((b.session ops).map fun p => (p.answer, p.after), r.tell w events) :=
    sessionTelling_eq hw ht r
  refine ⟨fun w w' r r' hw hw' => ?_, fun w r hw => ?_, fun w r hw hdetached => ?_,
    fun w r hw hkept => ?_, fun w r hw hstored => ?_, fun w r n hw hrefused => ?_,
    fun w r hw hrefused => ?_, fun w r hw hspaced => ?_⟩
  · rw [hdone r hw, hdone r' hw']
  · rw [hdone r hw]
  · rw [hdone r hw, Recorder.tell_of_detached hdetached]
    exact ⟨rfl, rfl⟩
  · rw [hdone r hw]
    exact Recorder.log_tell hkept
  · rw [hdone r hw]
    exact Recorder.journal_tell_of_not_refused hstored rfl rfl rfl
  · rw [hdone r hw]
    exact Recorder.journal_tell_of_refused hrefused
  · rw [hdone r hw, Recorder.journal_tell_of_refused hrefused, Nat.sub_self, List.take_zero]
    rfl
  · rw [hdone r hw]
    have hafter := Recorder.spaced_tell hspaced w events
    exact ⟨hafter, hafter.length_le_one⟩

/-- Sheets with a seven in `A1`, and evaluators on a machine where the log cannot be written. -/
def withSeven : Workbench :=
  ⟨Machine.standard.yaml, fun _ => Sheet.sevenInA1,
    fun _ => .ofOptions { Options.standard with stack := Machine.standard.stack .fails }⟩

/-- Surroundings in which no line is written. -/
def refusing : Surroundings :=
  ⟨fun _ => "t", fun k => Recorder.interval + k, fun _ => .refused, Machine.standard.costs⟩

/-- A formula that refers to its own cell, and one that refers to a cell that was stored, come to
the same where no line is written and where there is no log. -/
theorem sessionTelling_of_self :
    let ops : List Operation := [.evaluate 0 0 (some "A1") (.list [.str "A1"]),
      .set 0 "B1" (.list [.str "A1"]) (.float 7.0) (.str ""),
      .evaluate 0 0 none (.list [.str "B1"])]
    let done log := (withSeven.sessionTelling refusing ops).run ⟨log, 0, []⟩
    withSeven.Tells ops ∧ (done Log.fresh).1 = (done Log.empty).1 ∧
      (done Log.fresh).2.log.journal = .absent := by
  intro ops done
  have hcounts : withSeven.Counts refusing := fun _ => Nat.le_refl _
  have htells : withSeven.Tells ops := by
    refine ⟨fun tokens h => ?_, trivial, fun tokens h => ?_, trivial⟩
    · cases h
      nofun
    · cases h
      nofun
  have h := sessionTelling_uninfluenced htells
  dsimp only at h
  obtain ⟨hsame, -, -, -, -, -, hrefused, -⟩ := h
  refine ⟨htells, hsame refusing refusing _ _ hcounts hcounts, ?_⟩
  rw [hrefused refusing ⟨Log.fresh, 0, []⟩ hcounts fun _ _ => rfl]
  rfl

/-- A formula that refers to its own cell has two events. If both are lost, people are warned of the
first. -/
example :
    ((withSeven.sessionTelling refusing [.evaluate 0 0 (some "A1") (.list [.str "A1"])]).run
      ⟨Log.fresh, 0, []⟩).2.warnings = [Recorder.interval] := by
  decide +kernel

end Workbench

namespace Evaluator

variable {w : Surroundings} {r : Recorder} (hw : w.costs = Machine.standard.costs)

include hw

/-- Where no log is attached, the outcome is that of the standard options. -/
theorem outcome_standard (hr : r.Steady w .detached) (source : Source) (origin : Option Text)
    (formula : Value) :
    (((ofOptions .standard).evaluateTelling w source origin formula).run r).1.2 =
      ((ofOptions .standard).evaluate source origin formula).outcome :=
  outcome_evaluateTelling Machine.standard hw .standard hr source origin formula .detached

/-- Where a log is attached and works, it is that of the stack on which it is written. -/
theorem outcome_logging (hr : r.Steady w .works) (source : Source) (origin : Option Text)
    (formula : Value) :
    (((ofOptions .standard).evaluateTelling w source origin formula).run r).1.2 =
      ((logging true).evaluate source origin formula).outcome :=
  outcome_evaluateTelling Machine.standard hw .standard hr source origin formula .detached

end Evaluator

open Evaluator in
/-- **Deep in a formula the log has an influence.** The formula for `A1` refers to `A1`, in 329
pairs of parentheses. Beneath them there is room to find that this is circular, but no more to write
it to a log. -/
theorem Evaluator.outcome_depends_on_log :
    let writing : Surroundings := { Workbench.refusing with storing := fun _ => .kept }
    let formula : Value := .list ((inParentheses 329 "A1").map .str)
    let outcome log := ((evaluateTelling writing (ofOptions .standard) Sheet.sevenInA1.source
      (some "A1") formula).run ⟨log, 0, []⟩).1.2
    outcome Log.empty = .ok ⟨0.0, .str "#CIRC!"⟩ ∧ outcome Log.fresh = .ok ⟨0.0, .str "#ERR!"⟩ := by
  intro writing formula outcome
  have hempty : Recorder.Steady writing .detached ⟨Log.empty, 0, []⟩ :=
    show Log.empty.attached = false from rfl
  have hfresh : Recorder.Steady writing .works ⟨Log.fresh, 0, []⟩ :=
    ⟨rfl, by simp [Log.fresh], fun _ => rfl⟩
  have hread : run .standard Sheet.sevenInA1.source (some "A1") (inParentheses 329 "A1") =
      ⟨[.circular "A1" "A1"], .ok ⟨0.0, [], some .circular⟩⟩ :=
    (Setting.run_inParentheses (setting .standard Sheet.sevenInA1.source (some "A1"))
      (.of_isLabel rfl) 1 rfl).trans rfl
  have hcircular : ((ofOptions .standard).evaluate Sheet.sevenInA1.source (some "A1")
      formula).outcome = .ok ⟨0.0, .str "#CIRC!"⟩ := by
    have h := evaluateTokens_of_step (inParentheses_ne_nil 329 "A1") (congrArg Traced.result hread)
    rw [hread] at h
    rw [evaluate_texts]
    exact congrArg Evaluated.outcome h
  exact ⟨(outcome_standard rfl hempty _ _ _).trans hcircular,
    (outcome_logging rfl hfresh _ _ _).trans
    (congrArg Evaluated.outcome evaluate_logging_of_self)⟩

end FormulaSheet
