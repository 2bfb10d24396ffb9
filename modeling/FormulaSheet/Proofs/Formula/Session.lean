import FormulaSheet.Log
import FormulaSheet.Proofs.Formula.Outcome
import FormulaSheet.Proofs.Sheet.Calls

/-!
# Sessions with an evaluator

An evaluator is used over and over: it evaluates one formula after the other, is reset now and then,
and between two formulas the sheet under it changes. Some formulas have a value, others a failure,
and some evaluations are given up before they return. What the evaluator remembers of all that has
no influence on the next formula. This module follows an evaluator through such a session.

What an evaluator shows always fits together. It shows an error exactly if the last formula failed,
and it has not read more tokens than the formula has.

* `isConsistent_evaluate`, `length_tokens_evaluate`: an evaluator after an evaluation;
* `outcome_evaluate`: what an evaluation returns is what the evaluator shows;
* `inStep_step`, `inStep_run`: what one act and what a session keeps;
* `evaluate_of_run`: an evaluation at the end of a session.
-/

namespace FormulaSheet

namespace Evaluator

/-- What the evaluator shows fits together. -/
structure IsConsistent (e : Evaluator) : Prop where
  /-- it shows an error exactly if the last formula failed -/
  error : e.errorOccurred = true ↔ e.error ≠ .str ""
  /-- it has not read more tokens than there are -/
  position : e.position ≤ e.tokens.length

theorem isConsistent_of_code {e : Evaluator} (hc : ∀ g, e.failure = some g → g.code ≠ .str "")
    (hp : e.position ≤ e.tokens.length) : e.IsConsistent := by
  refine ⟨?_, hp⟩
  rw [errorOccurred, error]
  cases hf : e.failure with
  | none => simp [Failure.codeOf]
  | some g => simp [Failure.codeOf, hc g hf]

theorem isConsistent_ofOptions (o : Options) : (ofOptions o).IsConsistent :=
  isConsistent_of_code (fun g hg => by cases hg) (Nat.le_refl 0)

theorem remaining_le (e : Evaluator) : e.remaining ≤ e.tokens.length :=
  Nat.sub_le _ _

/-! ## Evaluations of tokens -/

section Tokens

variable {o : Options} {source : Source} {origin : Option Text} {tokens : List Text}

/-- The evaluator after an evaluation has read the tokens up to where the rule has ended, or none of
them. -/
theorem evaluator_evaluateTokens (o : Options) (source : Source) (origin : Option Text)
    (tokens : List Text) :
    (∃ failure, (∀ g, failure = some g → g.code ≠ .str "") ∧
        (evaluateTokens o source origin tokens).evaluator = { unread o tokens with failure }) ∨
      ∃ step, (run o source origin tokens).result = .ok step ∧
        (evaluateTokens o source origin tokens).evaluator =
          { readTo o tokens step with failure := step.verdict } := by
  by_cases hn : tokens = []
  · refine .inl ⟨some .empty, fun g hg => ?_, ?_⟩
    · cases hg
      simp [Failure.code, Failure.emptyCode]
    · rw [hn, evaluateTokens_nil, evaluator_conclude rfl]
  cases hr : (run o source origin tokens).result with
  | error halt =>
    cases halt with
    | cut c =>
      refine .inl ⟨some .invalid, fun g hg => ?_, ?_⟩
      · cases hg
        simp [Failure.code]
      · rw [evaluateTokens_of_cut hn hr, evaluator_conclude rfl]
    | fault f =>
      refine .inl ⟨none, fun g hg => (by cases hg), ?_⟩
      rw [evaluateTokens_of_fault hn hr]
      rfl
  | ok step =>
    refine .inr ⟨step, rfl, ?_⟩
    rw [evaluateTokens_of_step hn hr, evaluator_conclude rfl]

theorem tokens_evaluateTokens :
    (evaluateTokens o source origin tokens).evaluator.tokens = tokens := by
  obtain ⟨failure, -, he⟩ | ⟨step, -, he⟩ := evaluator_evaluateTokens o source origin tokens
  · rw [he]
    rfl
  · rw [he]
    rfl

theorem isConsistent_evaluateTokens :
    (evaluateTokens o source origin tokens).evaluator.IsConsistent := by
  obtain ⟨failure, hc, he⟩ | ⟨step, hr, he⟩ := evaluator_evaluateTokens o source origin tokens
  · rw [he]
    exact isConsistent_of_code hc (Nat.zero_le _)
  · rw [he]
    exact isConsistent_of_code (fun g hg => code_ne_empty_of_verdict hr hg) (Nat.sub_le _ _)

/-- The tokens that an evaluator has not read are those behind the expression. -/
theorem drop_position_of_step {step : Step} (hn : tokens ≠ [])
    (hr : (run o source origin tokens).result = .ok step) :
    tokens.drop (evaluateTokens o source origin tokens).evaluator.position = step.rest := by
  obtain ⟨front, hfront⟩ := Setting.run_shrinks hr
  have hlength : tokens.length - step.rest.length = front.length := by
    rw [← hfront, List.length_append, Nat.add_sub_cancel]
  rw [evaluateTokens_of_step hn hr, evaluator_conclude rfl, readTo, hlength, ← hfront,
    List.drop_left]

theorem outcome_evaluateTokens {out : Outcome}
    (h : (evaluateTokens o source origin tokens).outcome = .ok out) :
    out = (evaluateTokens o source origin tokens).evaluator.outcome := by
  rcases evaluateTokens_cases o source origin tokens with
    ⟨f, -, he⟩ | ⟨e, notes, failure, -, hn, -, he⟩
  · rw [he] at h
    cases h
  · rw [he] at h ⊢
    exact outcome_eq_of_conclude hn h

/-- Where there is no error all tokens were read. -/
theorem remaining_evaluateTokens {x : Float}
    (h : (evaluateTokens o source origin tokens).outcome = .ok ⟨x, .str ""⟩) :
    (evaluateTokens o source origin tokens).evaluator.remaining = 0 := by
  obtain ⟨hn, hr⟩ := outcome_clear_iff.1 h
  have hread := List.drop_eq_nil_iff.1 (drop_position_of_step hn hr)
  rw [remaining, tokens_evaluateTokens]
  exact Nat.sub_eq_zero_of_le hread

end Tokens

/-! ## Evaluations of formulas -/

/-- The number of tokens of a formula. A value that is no sequence has none. -/
def tokenCount (formula : Value) : Nat :=
  (formula.elements.toOption.map List.length).getD 0

theorem length_tokensOf {formula : Value} {tokens : List Text}
    (h : tokensOf formula = .ok tokens) : tokens.length = tokenCount formula := by
  obtain ⟨elements, he, hm⟩ := bind_eq_ok_iff.1 h
  rw [tokenCount, he, length_of_mapM hm]
  rfl

variable {e : Evaluator} {source : Source} {origin : Option Text} {formula : Value}

/-- **After an evaluation** the evaluator is consistent, whether it has returned or not. -/
theorem isConsistent_evaluate : (e.evaluate source origin formula).evaluator.IsConsistent := by
  rw [evaluate]
  split
  · exact isConsistent_ofOptions e.options
  · exact isConsistent_evaluateTokens

/-- After an evaluation the evaluator has the tokens of the formula, or none if they cannot be
told. -/
theorem length_tokens_evaluate :
    (e.evaluate source origin formula).evaluator.tokens.length ≤ tokenCount formula := by
  rw [evaluate]
  split
  · exact Nat.zero_le _
  · rename_i tokens ht
    rw [tokens_evaluateTokens, length_tokensOf ht]

/-- **An evaluation that returns** returns what the evaluator shows, and without an error nothing
remains. -/
theorem outcome_evaluate {out : Outcome}
    (h : (e.evaluate source origin formula).outcome = .ok out) :
    out = (e.evaluate source origin formula).evaluator.outcome ∧
      (out.error = .str "" → (e.evaluate source origin formula).evaluator.remaining = 0) := by
  rw [evaluate] at h ⊢
  split at h
  · cases h
  · rename_i tokens _
    refine ⟨outcome_evaluateTokens h, fun he => remaining_evaluateTokens (x := out.value) ?_⟩
    rw [h, ← he]

end Evaluator

/-- The event without its time. -/
def Event.untimed (e : Event) : Event :=
  { e with stamp := "" }

/-- The time has no influence on the rest of an event. -/
theorem Event.untimed_ofNotice (now later : Text) (n : Notice) :
    (ofNotice now n).untimed = (ofNotice later n).untimed := by
  cases n <;> rfl

/-! ## Sessions -/

/-- An evaluator at work, with the sheet under it and the log that has its notices. -/
structure Session where
  /-- the evaluator -/
  evaluator : Evaluator
  /-- the sheet -/
  sheet : Sheet
  /-- the event log -/
  log : Log

/-- What is done in a session. -/
inductive Act where
  /-- a formula is evaluated, at a time, and for the cell that has it if there is one -/
  | evaluate (now : Text) (origin : Option Text) (formula : Value)
  /-- the evaluator is reset -/
  | reset
  /-- there is a call on the sheet -/
  | call (call : Sheet.Call)

/-- The number of tokens of the formula that was evaluated last, after an act. -/
def Act.tokenCount (count : Nat) : Act → Nat
  | .evaluate _ _ formula => Evaluator.tokenCount formula
  | .reset | .call _ => count

namespace Session

/-- A session with an evaluator that has evaluated nothing. -/
def start (o : Options) (sheet : Sheet) (log : Log) : Session :=
  ⟨.ofOptions o, sheet, log⟩

/-- The evaluation of a formula. -/
def evaluated (s : Session) (origin : Option Text) (formula : Value) : Evaluated :=
  s.evaluator.evaluate s.sheet.source origin formula

/-- The events of the evaluation of a formula. -/
def events (s : Session) (now : Text) (origin : Option Text) (formula : Value) : List Event :=
  (s.evaluated origin formula).notices.map (Event.ofNotice now)

/-- The session after an act. -/
def step (s : Session) : Act → Session
  | .evaluate now origin formula =>
    { s with
      evaluator := (s.evaluated origin formula).evaluator
      log := s.log.notify now (s.evaluated origin formula).notices }
  | .reset => { s with evaluator := s.evaluator.reset }
  | .call call => { s with sheet := s.sheet.after call }

/-- The session after acts, one after the other. -/
def run (s : Session) (acts : List Act) : Session :=
  acts.foldl step s

/-- The evaluator has the options, is consistent, and has no more tokens than the number. -/
structure InStep (s : Session) (o : Options) (count : Nat) : Prop where
  options : s.evaluator.options = o
  consistent : s.evaluator.IsConsistent
  tokens : s.evaluator.tokens.length ≤ count

variable {s : Session} {o : Options} {count : Nat}

/-- **One act** keeps the evaluator in step with the formulas. -/
theorem inStep_step (h : s.InStep o count) (act : Act) :
    (s.step act).InStep o (act.tokenCount count) := by
  cases act with
  | evaluate now origin formula =>
    exact ⟨(Evaluator.options_evaluate _ _ _ _).trans h.options, Evaluator.isConsistent_evaluate,
      Evaluator.length_tokens_evaluate⟩
  | reset => exact ⟨h.options, Evaluator.isConsistent_ofOptions _, Nat.zero_le count⟩
  | call call => exact ⟨h.options, h.consistent, h.tokens⟩

/-- **A session** keeps the evaluator in step with the formulas. -/
theorem inStep_run (h : s.InStep o count) (acts : List Act) :
    (s.run acts).InStep o (acts.foldl Act.tokenCount count) := by
  induction acts generalizing s count with
  | nil => exact h
  | cons act acts ih => exact ih (inStep_step h act)

/-- **At the end of any session** the evaluator is consistent, and no more tokens remain than the
last formula has. A further evaluation leaves the sheet as it is. If it returns, it returns the
value and the error that the evaluator shows, and without an error nothing remains. It is the
evaluation by an evaluator that has evaluated nothing: what it returns, the evaluator afterwards and
the recorded events are the same, but for the time of the events. -/
theorem evaluate_of_run (o : Options) (sheet : Sheet) (log : Log) (acts : List Act) :
    let s := (start o sheet log).run acts
    s.evaluator.IsConsistent ∧
    s.evaluator.remaining ≤ acts.foldl Act.tokenCount 0 ∧
    ∀ now origin formula,
      let next := s.step (.evaluate now origin formula)
      next.sheet = s.sheet ∧
      next.log = s.log.emitAll (s.events now origin formula) ∧
      (∀ out, (s.evaluated origin formula).outcome = .ok out →
        out = ⟨next.evaluator.result, next.evaluator.error⟩ ∧
        (next.evaluator.error = .str "" → next.evaluator.remaining = 0)) ∧
      ∀ log' later,
        let fresh := start o s.sheet log'
        (s.evaluated origin formula).outcome = (fresh.evaluated origin formula).outcome ∧
        next.evaluator = (fresh.step (.evaluate later origin formula)).evaluator ∧
        (s.events now origin formula).map Event.untimed =
          (fresh.events later origin formula).map Event.untimed := by
  intro s
  have hs : s.InStep o (acts.foldl Act.tokenCount 0) :=
    inStep_run ⟨rfl, Evaluator.isConsistent_ofOptions o, Nat.le_refl 0⟩ acts
  refine ⟨hs.consistent, (Evaluator.remaining_le _).trans hs.tokens, fun now origin formula => ?_⟩
  refine ⟨rfl, rfl, fun out ho => ?_, fun log' later => ?_⟩
  · obtain ⟨hout, hrest⟩ := Evaluator.outcome_evaluate ho
    refine ⟨hout, fun he => hrest ?_⟩
    rw [hout]
    exact he
  · -- of the evaluator only the options count, and the session has not changed them
    have hfresh : s.evaluated origin formula = (start o s.sheet log').evaluated origin formula :=
      Evaluator.evaluate_eq_of_options hs.options _ _ _
    refine ⟨congrArg Evaluated.outcome hfresh, congrArg Evaluated.evaluator hfresh, ?_⟩
    rw [events, events, hfresh, List.map_map, List.map_map]
    exact List.map_congr_left fun n _ => Event.untimed_ofNotice now later n

end Session

end FormulaSheet
