import FormulaSheet.Proofs.Formula.Program
import FormulaSheet.Proofs.Log.Evaluation
import FormulaSheet.Proofs.Log.Recorder
import FormulaSheet.Sheet.File

/-!
# Evaluations with a log at hand

What an evaluation has to tell comes with its result. A program that has the event log at hand does
not wait for that: it tells the log of a circular reference in the middle of the reading, and of a
failure between two changes of the evaluator. It comes to the same, and the log is told of the same
events in the same order.

There is one exception. Telling the log takes calls, and deep in a formula there may be no room for
them, in which case the evaluation is cut. How many calls it takes depends on what becomes of the
event, so that an evaluation may be cut with one log and not with another.

* `Setting.realizes_telling`: the rules that tell the log do what the rules do, where the log takes
  no more calls than the stack counts for it, or as many;
* `Evaluator.evaluateTelling_eq`: an evaluation that tells the log is the evaluation, and tells it
  of its notices, unless there is no room for that;
* `Evaluator.outcome_evaluateTelling`: what it comes to on a machine, with a log that is not
  attached, works or fails.
-/

namespace FormulaSheet

open Evaluator (noticesOf setting)

/-! ## Programs with a log at hand -/

/-- The event of a notice, for whatever time it is made at. -/
def Notice.event (n : Notice) : Text → Event :=
  fun now => .ofNotice now n

/-- A program that knows the failure so far, that may be given up, and that has a log at hand. -/
abbrev Telling : Type → Type :=
  StateT (Option Failure) (ExceptT Halt (StateM Recorder))

namespace Telling

variable {α β : Type}

/-- What a program comes to from a failure so far and a log: a result with the failure then, unless
it is given up, and the log then. -/
def start (m : Telling α) (f : Option Failure) (r : Recorder) :
    Except Halt (α × Option Failure) × Recorder :=
  m f r

/-- Tells the log of a notice in a call of its own, if there is room for it. -/
def tell (w : Surroundings) (room : Nat) (n : Notice) : Telling Unit :=
  match room with
  | 0 => throw (.cut .telling)
  | room + 1 => do
    let told ← StateT.lift (ExceptT.lift (modifyGet fun r => (r.recordIn w room n.event).swap))
    if told then pure () else throw (.cut .telling)

/-- Does what has no effect on the log. -/
def ofTraced (t : Traced α) : Telling α :=
  match t.result with
  | .ok a => pure a
  | .error h => throw h

/-- Yields a value with a failure, if there is one. -/
def yield (t : Traced (α × Option Failure)) : Telling α := do
  let (a, g) ← ofTraced t
  modify g.or
  pure a

/-- Goes on with what a program has come to. -/
def andThen (g : α → Telling β) :
    Except Halt (α × Option Failure) × Recorder → Except Halt (β × Option Failure) × Recorder
  | (.ok (a, f), r) => (g a).start f r
  | (.error h, r) => (.error h, r)

theorem start_bind (m : Telling α) (g : α → Telling β) (f : Option Failure) (r : Recorder) :
    (m >>= g).start f r = andThen g (m.start f r) := by
  simp only [start, bind, StateT.bind, ExceptT.bind, ExceptT.mk, Id]
  rcases m f r with ⟨_ | ⟨a, f'⟩, r'⟩
  · rfl
  · rfl

theorem start_tell (w : Surroundings) (room : Nat) (n : Notice) (f : Option Failure)
    (r : Recorder) : (tell w (room + 1) n).start f r =
      (if (r.recordIn w room n.event).2 then .ok ((), f) else .error (.cut .telling),
        (r.recordIn w room n.event).1) := by
  have hstart : (tell w (room + 1) n).start f r = andThen
      (fun told => if told then pure () else throw (.cut .telling))
      (.ok ((r.recordIn w room n.event).2, f), (r.recordIn w room n.event).1) :=
    start_bind _ _ f r
  rw [hstart]
  rcases r.recordIn w room n.event with ⟨r', _ | _⟩ <;> rfl

/-- What is made of a result has the same record. -/
theorem bind_pure_eq (t : Traced α) (g : α → β) :
    (t >>= fun a => pure (g a)) = ⟨t.notes, t.result.map g⟩ := by
  obtain ⟨notes, result⟩ := t
  cases result with
  | error h => rfl
  | ok a => exact congrArg (Traced.mk · _) (List.append_nil notes)

/-- What a program has come to from a log is the result, and the log was told of the notices in the
record. If there is no room to tell the log of something, it is the result where the number of
calls that this takes is sharp. -/
structure Comes (w : Surroundings) (sharp : Prop) (r : Recorder) (t : Traced α)
    (p : Except Halt α × Recorder) : Prop where
  told : t.result ≠ .error (.cut .telling) →
    p = (t.result, r.tell w ((noticesOf t.notes).map Notice.event))
  sharp : sharp → p.1 = t.result

/-- How many calls the log takes, in all that may become of it: where there is room for them, it is
told of a circular reference. If the number is sharp, it is not where there is none. -/
structure Charges (w : Surroundings) (calls : Nat) (I : Recorder → Prop) (sharp : Prop) : Prop where
  keeps : ∀ {r}, I r → ∀ make, I (r.record w make)
  told : ∀ {r room}, I r → calls ≤ room → ∀ origin label,
    r.recordIn w room (Notice.circular origin label).event =
      (r.record w (Notice.circular origin label).event, true)
  untold : sharp → ∀ {r room}, I r → room < calls → ∀ origin label,
    (r.recordIn w room (Notice.circular origin label).event).2 = false

variable {w : Surroundings} {calls : Nat} {I : Recorder → Prop} {sharp : Prop}

/-- Where all the calls are counted that reporting takes, the log is told whatever becomes of it. -/
theorem charges_report (h : w.costs.report ≤ calls) : Charges w calls (fun _ => True) False where
  keeps _ _ := trivial
  told _ hroom _ _ := Recorder.recordIn_of_report_le (Nat.le_trans h hroom)
  untold hf := hf.elim

/-- The event of a circular reference can be written. -/
theorem refusal?_event (origin label now : Text) :
    ((Notice.circular origin label).event now).capped.refusal? = none := by
  rw [Notice.event, Event.capped_circular]
  exact Event.refusal?_circularWarning now origin label

/-- Where the same becomes of all events, the number of calls is known. -/
theorem charges_steady (w : Surroundings) (state : LogState) :
    Charges w (w.costs.of state) (Recorder.Steady w state) True where
  keeps h make := h.record make
  told h hroom origin label :=
    (Recorder.recordIn_of_steady h (refusal?_event origin label)).1 hroom
  untold _ _ _ h hroom origin label :=
    (Recorder.recordIn_of_steady h (refusal?_event origin label)).2 hroom

theorem Charges.keeps_tell (h : Charges w calls I sharp) {r : Recorder} (hr : I r)
    (events : List (Text → Event)) : I (r.tell w events) := by
  induction events generalizing r with
  | nil => exact hr
  | cons make events ih => exact ih (h.keeps hr make)

/-- The program does what is written down for each failure so far: from any log it comes to that. -/
def Does (w : Surroundings) (I : Recorder → Prop) (sharp : Prop)
    (t : Option Failure → Traced (α × Option Failure)) (m : Telling α) : Prop :=
  ∀ f r, I r → Comes w sharp r (t f) (m.start f r)

namespace Does

/-- One thing is done after the other. -/
theorem bind (hc : Charges w calls I sharp) {t : Option Failure → Traced (α × Option Failure)}
    {m : Telling α} {k : α × Option Failure → Traced (β × Option Failure)} {g : α → Telling β}
    (ht : Does w I sharp t m) (hk : ∀ a, Does w I sharp (fun f => k (a, f)) (g a)) :
    Does w I sharp (fun f => t f >>= k) (m >>= g) := by
  intro f r hr
  have hm := ht f r hr
  rw [start_bind]
  dsimp only at hm ⊢
  generalize m.start f r = p at hm
  generalize t f = u at hm
  obtain ⟨notes, result⟩ := u
  cases result with
  | error h =>
    rw [Traced.bind_error]
    refine ⟨fun hh => ?_, fun he => ?_⟩
    · rw [hm.told fun hh' => hh (congrArg _ (Except.error.inj hh'))]
      rfl
    · obtain ⟨result, r'⟩ := p
      rw [show result = .error h from hm.sharp he]
      rfl
  | ok a =>
    obtain ⟨a, f'⟩ := a
    have hafter := hk a f' _ (hc.keeps_tell hr ((noticesOf notes).map Notice.event))
    rw [hm.told (by nofun), Traced.bind_ok]
    refine ⟨fun hh => ?_, hafter.sharp⟩
    rw [Evaluator.noticesOf_append, List.map_append, Recorder.tell_append]
    exact hafter.told hh

theorem pure (a : α) : Does w I sharp (fun f => Pure.pure (a, f)) (Pure.pure a) :=
  fun _ _ _ => ⟨fun _ => rfl, fun _ => rfl⟩

theorem throw (h : Halt) :
    Does w I sharp (fun _ => Traced.halt h) (MonadExcept.throw h : Telling α) :=
  fun _ _ _ => ⟨fun _ => rfl, fun _ => rfl⟩

theorem set (g : Failure) :
    Does w I sharp (fun _ => Pure.pure ((), some g)) (MonadStateOf.set (some g)) :=
  fun _ _ _ => ⟨fun _ => rfl, fun _ => rfl⟩

/-- What is made of a result without notices has no effect on the log. -/
theorem of_quiet {t : Traced α} {m : Telling β} {k : α → Option Failure → β × Option Failure}
    (h : noticesOf t.notes = []) (hm : ∀ f r, m.start f r = (t.result.map (k · f), r)) :
    Does w I sharp (fun f => t >>= fun a => Pure.pure (k a f)) m := by
  intro f r _
  dsimp only
  rw [hm, bind_pure_eq]
  refine ⟨fun _ => ?_, fun _ => rfl⟩
  rw [h]
  rfl

theorem ofTraced {t : Traced α} (h : noticesOf t.notes = []) :
    Does w I sharp (fun f => t >>= fun a => Pure.pure (a, f)) (Telling.ofTraced t) := by
  refine of_quiet h fun f r => ?_
  rcases t with ⟨_, _ | _⟩ <;> rfl

theorem yield {t : Traced (α × Option Failure)} (h : noticesOf t.notes = []) :
    Does w I sharp (fun f => t >>= fun p => Pure.pure (p.1, p.2.or f)) (Telling.yield t) := by
  refine of_quiet h fun f r => ?_
  rcases t with ⟨_, _ | _⟩ <;> rfl

theorem congr {t t' : Option Failure → Traced (α × Option Failure)} {m : Telling α}
    (h : Does w I sharp t m) (ht : ∀ f, t' f = t f) : Does w I sharp t' m :=
  fun f r hr => ht f ▸ h f r hr

/-- **The log is told of a circular reference** where there is room for the calls. -/
theorem tell (hc : Charges w calls I sharp) (room : Nat) (origin label : Text) :
    Does w I sharp
      (fun f => if 1 + calls ≤ room then Traced.noting (.circular origin label) (Pure.pure ((), f))
        else Traced.halt (.cut .telling))
      (Telling.tell w room (.circular origin label)) := by
  intro f r hr
  dsimp only
  cases room with
  | zero =>
    rw [if_neg (by omega)]
    exact ⟨fun hh => absurd rfl hh, fun _ => rfl⟩
  | succ room =>
    rw [start_tell]
    by_cases hroom : calls ≤ room
    · rw [if_pos (by omega), hc.told hr hroom]
      exact ⟨fun _ => rfl, fun _ => rfl⟩
    · rw [if_neg (by omega)]
      refine ⟨fun hh => absurd rfl hh, fun he => ?_⟩
      dsimp only
      rw [hc.untold he hr (by omega)]
      rfl

end Does

/-- The program does what the rule does, whatever the failure so far and the log are: it comes to
the value, the tokens that are left and the failure of the rule, and has told the log of its
notices. -/
def Follows (w : Surroundings) (I : Recorder → Prop) (sharp : Prop)
    (t : Option Failure → Traced Step) (m : Telling (Float × List Text)) : Prop :=
  Does w I sharp (fun f => t f >>= fun step => pure ((step.value, step.rest), step.failure)) m

theorem Follows.bind {t : Option Failure → Traced Step} {m : Telling (Float × List Text)}
    {k : Step → Traced Step} {g : Float × List Text → Telling (Float × List Text)}
    (hc : Charges w calls I sharp) (ht : Follows w I sharp t m)
    (hk : ∀ x rest, Follows w I sharp (fun f => k ⟨x, rest, f⟩) (g (x, rest))) :
    Follows w I sharp (fun f => t f >>= k) (m >>= g) := by
  have h := Does.bind hc ht (k := fun p : (Float × List Text) × Option Failure =>
    k ⟨p.1.1, p.1.2, p.2⟩ >>= fun step => pure ((step.value, step.rest), step.failure))
    (g := g) fun p => hk p.1 p.2
  simp only [bind_assoc, pure_bind] at h
  rw [Follows]
  simp only [bind_assoc]
  exact h

end Telling

/-! ## Rules with a log at hand -/

namespace Setting

variable (s : Setting) (w : Surroundings)

/-- Follows a reference. The log is told of a circular one as soon as it is found. -/
def referenceTelling (depth : Nat) (label : Text) : Telling Float := do
  if ← .ofTraced (s.checkIn (s.stack.room depth) label) then
    .tell w (s.stack.room depth) (.circular (s.guarded.getD "") label)
    set (some Failure.circular)
    pure 0.0
  else if 1 + s.source.frames label ≤ s.stack.room depth then
    match ← Telling.ofTraced (s.fetch label) with
    | none => do
      set (some Failure.reference)
      pure 0.0
    | some c => .yield (Traced.ofExcept c.reading)
  else throw (.cut .reading)

/-- The grammar rules as programs that tell the log. -/
def telling : Effects Telling where
  labels := s.labels
  blankIsZero := s.blankIsZero
  fail g := set (some g)
  reference := s.referenceTelling w
  cut := throw (.cut .reading)

variable {s : Setting} {w : Surroundings} {I : Recorder → Prop} {sharp : Prop}

/-- What is read at a label is yielded. -/
theorem does_read (h : Telling.Charges w s.stack.warning I sharp) {label : Text} :
    Telling.Does w I sharp (fun f => s.read label >>= fun q => pure (q.1, q.2.or f)) (do
      match ← Telling.ofTraced (s.fetch label) with
      | none => do
        set (some Failure.reference)
        pure 0.0
      | some c => .yield (Traced.ofExcept c.reading)) := by
  have hquiet : noticesOf (s.fetch label).notes = [] := by
    rw [notes_fetch]
    rfl
  refine (Telling.Does.bind (k := fun p => (match p.1 with
    | none => pure (0.0, some .reference)
    | some c => Traced.ofExcept c.reading) >>= fun q => pure (q.1, q.2.or p.2)) h (.ofTraced hquiet)
    fun content => ?_).congr fun f => ?_
  · cases content with
    | none => exact fun _ _ _ => ⟨fun _ => rfl, fun _ => rfl⟩
    | some c =>
      refine Telling.Does.yield ?_
      cases c.reading <;> rfl
  · simp only [bind_assoc, pure_bind]
    exact bind_assoc (s.fetch label) _ _

/-- A reference that is followed by a program yields what it yields, and the log is told of its
notices. -/
theorem does_referenceTelling (h : Telling.Charges w s.stack.warning I sharp) (depth : Nat)
    (label : Text) : Telling.Does w I sharp
      (fun f => s.referenceIn (s.stack.room depth) label >>= fun p => pure (p.1, p.2.or f))
      (s.referenceTelling w depth label) := by
  -- the reference behind its check
  let behind (circular : Bool) : Traced (Float × Option Failure) :=
    if circular then
      if 1 + s.stack.warning ≤ s.stack.room depth then
        Traced.noting (.circular (s.guarded.getD "") label) (pure (0.0, some .circular))
      else Traced.halt (.cut .telling)
    else if 1 + s.source.frames label ≤ s.stack.room depth then s.read label
    else Traced.halt (.cut .reading)
  have hcheck : Telling.Does w I sharp
      (fun f => s.checkIn (s.stack.room depth) label >>= fun a => pure (a, f))
      (.ofTraced (s.checkIn (s.stack.room depth) label)) := .ofTraced noticesOf_checkIn
  refine (Telling.Does.bind (k := fun p => behind p.1 >>= fun q => pure (q.1, q.2.or p.2)) h hcheck
    fun circular => ?_).congr fun f => ?_
  · cases circular with
    | true =>
      refine (Telling.Does.bind (k := fun _ => pure ((0.0 : Float), some Failure.circular)) h
        (Telling.Does.tell h (s.stack.room depth) (s.guarded.getD "") label)
        fun _ _ _ _ => ⟨fun _ => rfl, fun _ => rfl⟩).congr fun f => ?_
      simp only [behind, if_true]
      split <;> rfl
    | false =>
      simp only [behind, Bool.false_eq_true, if_false]
      split
      · exact does_read h
      · exact Telling.Does.throw _
  · rw [referenceIn_eq_read]
    simp only [bind_assoc, pure_bind]
    rfl

/-- **The rules that tell the log** do what the rules do. -/
theorem realizes_telling (h : Telling.Charges w s.stack.warning I sharp) :
    Realizes s.grammarIn (s.telling w) (Telling.Follows w I sharp) where
  labels _ := rfl
  blankIsZero _ := rfl
  pure x rest := Telling.Does.pure (x, rest)
  fail := by
    refine ⟨?_, ?_, ?_, ?_⟩ <;> exact fun _ _ _ _ _ => ⟨fun _ => rfl, fun _ => rfl⟩
  reference depth label rest := by
    refine (Telling.Does.bind (k := fun p => pure ((p.1, rest), p.2)) h
      (does_referenceTelling h depth label) fun x => .pure (x, rest)).congr fun f => ?_
    simp only [bind_assoc, pure_bind]
    rfl
  cut := Telling.Does.throw (.cut .reading)
  bind := .bind h

end Setting

/-! ## Evaluations with a log at hand -/

namespace Evaluator

variable (w : Surroundings)

/-- Ends an evaluation with a failure. The log is told of it when the evaluator has it already. -/
def failTelling (e : Evaluator) (origin : Option Text) (failure : Failure) :
    StateM Recorder (Evaluator × Except Fault Outcome) := do
  let e := { e with failure := some failure }
  match failure.code.text, failure.code.plainText? with
  | .ok error, some code => do
    modify fun r => r.record w (Notice.failed e.tokens origin e.position error code).event
    pure (e, .ok e.outcome)
  | .ok _, none => pure (e, .error .invalidEvent)
  | .error f, _ => pure (e, .error f)

/-- Ends an evaluation with what its rule has come to. -/
def finishTelling (options : Options) (origin : Option Text) (tokens : List Text) :
    Except Halt ((Float × List Text) × Option Failure) →
      StateM Recorder (Evaluator × Except Fault Outcome)
  | .error (.cut _) => (unread options tokens).failTelling w origin .invalid
  | .error (.fault f) => pure (unread options tokens, .error f)
  | .ok ((x, rest), failure) =>
    let e := { unread options tokens with position := tokens.length - rest.length, result := x }
    match failure with
    | some failure => e.failTelling w origin failure
    | none => if rest.isEmpty then pure (e, .ok e.outcome) else e.failTelling w origin .invalid

/-- Evaluates tokens, and tells the log meanwhile. -/
def evaluateTokensTelling (options : Options) (source : Source) (origin : Option Text)
    (tokens : List Text) : StateM Recorder (Evaluator × Except Fault Outcome) :=
  if tokens.isEmpty then (unread options tokens).failTelling w origin .empty
  else do
    let rules := (setting options source origin).telling w
    finishTelling w options origin tokens (← rules.expression options.stack.levels tokens none)

/-- Evaluates a formula, and tells the log meanwhile. -/
def evaluateTelling (e : Evaluator) (source : Source) (origin : Option Text) (formula : Value) :
    StateM Recorder (Evaluator × Except Fault Outcome) :=
  match tokensOf formula with
  | .error f => pure (e.reset, .error f)
  | .ok tokens => evaluateTokensTelling w e.options source origin tokens

variable {w : Surroundings}

/-- What an evaluation comes to, for the evaluator and for the log. -/
def toldBy (w : Surroundings) (done : Evaluated) (r : Recorder) :
    (Evaluator × Except Fault Outcome) × Recorder :=
  ((done.evaluator, done.outcome), r.tell w (done.notices.map Notice.event))

/-- There is room to tell the log of every circular reference that the evaluation comes to. -/
def Tells (e : Evaluator) (source : Source) (origin : Option Text) (formula : Value) : Prop :=
  ∀ tokens, tokensOf formula = .ok tokens →
    (run e.options source origin tokens).result ≠ .error (.cut .telling)

theorem failTelling_eq (e : Evaluator) (origin : Option Text) (notes : List Note)
    (failure : Failure) (r : Recorder) :
    (e.failTelling w origin failure).run (r.tell w ((noticesOf notes).map Notice.event)) =
      toldBy w (e.fail origin notes failure) r := by
  rw [failTelling, fail, toldBy]
  cases failure.code.text with
  | error f => rfl
  | ok error =>
    cases failure.code.plainText? with
    | none => rfl
    | some code =>
      rw [List.map_append, Recorder.tell_append]
      rfl

/-- The options and the log enter into an outcome only by the rules. -/
theorem outcome_failTelling (o' : Options) (e : Evaluator) (origin : Option Text)
    (failure : Failure) (r r' : Recorder) : ((e.failTelling w origin failure).run r).1.2 =
      (({ e with options := o' }.failTelling w origin failure).run r').1.2 := by
  rw [failTelling, failTelling]
  cases failure.code.text with
  | error f => rfl
  | ok error => cases failure.code.plainText? <;> rfl

theorem outcome_finishTelling (o o' : Options) (origin : Option Text) (tokens : List Text)
    (result : Except Halt ((Float × List Text) × Option Failure)) (r r' : Recorder) :
    ((finishTelling w o origin tokens result).run r).1.2 =
      ((finishTelling w o' origin tokens result).run r').1.2 := by
  rcases result with halt | ⟨⟨x, rest⟩, failure⟩
  · cases halt with
    | cut c => exact outcome_failTelling o' (unread o tokens) origin .invalid r r'
    | fault f => rfl
  · cases failure with
    | some g => exact outcome_failTelling o' (readTo o tokens ⟨x, rest, some g⟩) origin g r r'
    | none =>
      cases rest with
      | nil => rfl
      | cons token rest =>
        exact outcome_failTelling o' (readTo o tokens ⟨x, token :: rest, none⟩) origin .invalid r r'

section

variable {I : Recorder → Prop} {sharp : Prop} (o : Options) (source : Source)
  (origin : Option Text) {tokens : List Text}

/-- What the rule has come to, as the program returns it. -/
def returned (step : Step) : (Float × List Text) × Option Failure :=
  ((step.value, step.rest), step.failure)

/-- The end of an evaluation is the same, and the log is told of the failure. -/
theorem finishTelling_eq (hn : tokens ≠ []) (r : Recorder) :
    (finishTelling w o origin tokens ((run o source origin tokens).result.map returned)).run
        (r.tell w ((noticesOf (run o source origin tokens).notes).map Notice.event)) =
      toldBy w (evaluateTokens o source origin tokens) r := by
  cases hr : (run o source origin tokens).result with
  | error halt =>
    cases halt with
    | cut c =>
      rw [evaluateTokens_of_cut hn hr]
      exact failTelling_eq (unread o tokens) origin _ .invalid r
    | fault f =>
      rw [evaluateTokens_of_fault hn hr]
      rfl
  | ok step =>
    rw [evaluateTokens_of_step hn hr]
    rcases step with ⟨x, rest, failure⟩
    cases failure with
    | some g => exact failTelling_eq (readTo o tokens ⟨x, rest, some g⟩) origin _ g r
    | none =>
      cases rest with
      | nil => rfl
      | cons token rest =>
        exact failTelling_eq (readTo o tokens ⟨x, token :: rest, none⟩) origin _ .invalid r

variable (tokens) {r : Recorder}

/-- An evaluation that tells the log is the evaluation, as far as the calls are known that telling
the log takes. -/
theorem evaluateTokensTelling_eq (h : Telling.Charges w o.stack.warning I sharp) (hr : I r) :
    ((run o source origin tokens).result ≠ .error (.cut .telling) →
      (evaluateTokensTelling w o source origin tokens).run r =
        toldBy w (evaluateTokens o source origin tokens) r) ∧
    (sharp → ((evaluateTokensTelling w o source origin tokens).run r).1.2 =
      (evaluateTokens o source origin tokens).outcome) := by
  by_cases hn : tokens = []
  · subst hn
    have hfail := failTelling_eq (w := w) (unread o []) origin [] .empty r
    exact ⟨fun _ => hfail, fun _ => congrArg (fun p => p.1.2) hfail⟩
  let m := ((setting o source origin).telling w).expression o.stack.levels tokens none
  have hcomes : Telling.Comes w sharp r
      (run o source origin tokens >>= fun step => pure (returned step)) (m r) :=
    (Setting.realizes_telling (s := setting o source origin) h).expression o.stack.levels tokens
      none r hr
  have hf : ¬ tokens.isEmpty = true := by simpa using hn
  have hrun : (evaluateTokensTelling w o source origin tokens).run r =
      (finishTelling w o origin tokens (m r).1).run (m r).2 := by
    rw [evaluateTokensTelling, if_neg hf]
    rfl
  rw [hrun]
  rw [Telling.bind_pure_eq] at hcomes
  have hfinish := finishTelling_eq (w := w) o source origin hn r
  refine ⟨fun htold => ?_, fun he => ?_⟩
  · rw [hcomes.told fun hcut => htold (map_eq_error_iff.1 hcut)]
    exact hfinish
  · rw [hcomes.sharp he]
    exact (outcome_finishTelling o o origin tokens _ _ _).trans (congrArg (fun p => p.1.2) hfinish)

end

theorem evaluateTelling_eq {e : Evaluator} {source : Source} {origin : Option Text}
    {formula : Value} (hw : w.costs.report ≤ e.options.stack.warning)
    (ht : e.Tells source origin formula) (r : Recorder) :
    (e.evaluateTelling w source origin formula).run r =
      toldBy w (e.evaluate source origin formula) r := by
  rw [evaluateTelling, evaluate]
  cases htokens : tokensOf formula with
  | error f => rfl
  | ok tokens =>
    exact (evaluateTokensTelling_eq e.options source origin tokens (Telling.charges_report hw)
      trivial).1 (ht tokens htokens)

/-! ### On a machine -/

/-- **What an evaluation comes to on a machine** whose log is not attached, works or fails: the
outcome on the stack where so many calls are counted for telling the log. -/
theorem outcome_evaluateTelling (m : Machine) (hw : w.costs = m.costs) (o : Options)
    {state : LogState} {r : Recorder} (hr : r.Steady w state) (source : Source)
    (origin : Option Text) (formula : Value) (state' : LogState) :
    ((evaluateTelling w (ofOptions { o with stack := m.stack state' }) source origin formula).run
      r).1.2 =
      ((ofOptions { o with stack := m.stack state }).evaluate source origin formula).outcome := by
  rw [evaluateTelling, evaluate]
  cases tokensOf formula with
  | error f => rfl
  | ok tokens =>
    have hsame : ((evaluateTokensTelling w { o with stack := m.stack state' } source origin
        tokens).run r).1.2 =
          ((evaluateTokensTelling w { o with stack := m.stack state } source origin
          tokens).run r).1.2 := by
      rw [evaluateTokensTelling, evaluateTokensTelling]
      split
      · exact outcome_failTelling _ (unread _ tokens) origin .empty r r
      · exact outcome_finishTelling _ _ origin tokens _ _ _
    have hcharges := Telling.charges_steady w state
    rw [hw] at hcharges
    exact hsame.trans ((evaluateTokensTelling_eq { o with stack := m.stack state } source origin
      tokens hcharges hr).2 trivial)

end Evaluator

end FormulaSheet
