import FormulaSheet.Proofs.Formula.Notices
import FormulaSheet.Proofs.Formula.Program

/-!
# A failure never steers the reading

A grammar rule is given the failure so far, and passes one on. Whether it was given one makes no
difference to anything else. To say so without two runs to compare, the rules are read as searches:
a search is given no failure at all, and collects those that it finds (`Search`). A rule does what
its search does, and the failure that it passes on is the last one that was found, or the one that
it was given if none was found.

From this everything follows that can be said of failures: rules that are given different ones do
the same, a failure is not cleared but replaced, and an evaluation has the error that was detected
last.

* `Setting.reports_search`, `Setting.exists_reports`: what the rules have to do with their searches;
* `Setting.Reports.stick`: two runs of a rule;
* `Evaluator.error_of_outcome`: the error of an evaluation is the one that was detected last;
* `Evaluator.failures_stick`: failures are passed on or replaced, and steer nothing.
-/

namespace FormulaSheet

/-! ## Searches -/

/-- A result with the record of what was done for it and of the failures that were found. Both are
kept when it is given up. -/
structure Search (α : Type) where
  /-- what was done, in order -/
  notes : List Note
  /-- the failures that were found, in order -/
  found : List Failure
  /-- the result, or why there is none -/
  result : Except Halt α

namespace Search

variable {α β : Type}

/-- A result for which nothing was done or found. -/
protected def pure (a : α) : Search α :=
  ⟨[], [], .ok a⟩

/-- Goes on with the result, if there is one. -/
protected def bind (m : Search α) (f : α → Search β) : Search β :=
  match m.result with
  | .ok a => ⟨m.notes ++ (f a).notes, m.found ++ (f a).found, (f a).result⟩
  | .error h => ⟨m.notes, m.found, .error h⟩

instance : Monad Search where
  pure := Search.pure
  bind := Search.bind

/-- Finds a failure. -/
def find (g : Failure) : Search Unit :=
  ⟨[], [g], .ok ()⟩

/-- The search for the failure that an evaluation ends with. -/
def ofTraced (t : Traced (α × Option Failure)) : Search α :=
  match t.result with
  | .ok (a, g) => ⟨t.notes, g.toList, .ok a⟩
  | .error h => ⟨t.notes, [], .error h⟩

theorem bind_ok (notes : List Note) (found : List Failure) (a : α) (f : α → Search β) :
    ((⟨notes, found, .ok a⟩ : Search α) >>= f) =
      ⟨notes ++ (f a).notes, found ++ (f a).found, (f a).result⟩ :=
  rfl

end Search

namespace Setting

/-- The grammar rules, read as searches for failures. -/
def search (s : Setting) : Effects Search where
  labels := s.labels
  blankIsZero := s.blankIsZero
  fail := Search.find
  reference depth label := .ofTraced (s.referenceIn (s.stack.room depth) label)
  cut := ⟨[], [], .error (.cut .reading)⟩

/-- Whatever failure it is given, the rule does what the search does and ends where the search ends,
with the last failure that was found, or the one it was given if none was. What is found has the
property. -/
structure Reports (P : Failure → Prop) (t : Option Failure → Traced Step)
    (m : Search (Float × List Text)) : Prop where
  run : ∀ f, t f = ⟨m.notes, m.result.map fun p => ⟨p.1, p.2, m.found.getLast?.or f⟩⟩
  found : ∀ g ∈ m.found, P g

variable {s : Setting} {P : Failure → Prop}

theorem Reports.pure (x : Float) (rest : List Text) :
    Reports P (fun f => pure ⟨x, rest, f⟩) (pure (x, rest)) :=
  ⟨fun _ => rfl, fun _ hm => by cases hm⟩

theorem Reports.find {g : Failure} (hg : P g) (x : Float) (rest : List Text) :
    Reports P (fun _ => Pure.pure ⟨x, rest, some g⟩)
      (Search.find g >>= fun _ => Pure.pure (x, rest)) :=
  ⟨fun _ => rfl, fun _ hm => List.mem_singleton.1 hm ▸ hg⟩

/-- What is found later takes the place of what was found before. -/
theorem Reports.bind {t : Option Failure → Traced Step} {m : Search (Float × List Text)}
    {k : Step → Traced Step} {g : Float × List Text → Search (Float × List Text)}
    (ht : Reports P t m) (hk : ∀ x rest, Reports P (fun f => k ⟨x, rest, f⟩) (g (x, rest))) :
    Reports P (fun f => t f >>= k) (m >>= g) := by
  rcases m with ⟨notes, found, result⟩
  cases result with
  | error h =>
    refine ⟨fun f => ?_, ht.found⟩
    rw [ht.run f]
    rfl
  | ok p =>
    obtain ⟨x, rest⟩ := p
    obtain ⟨hrun, hfound⟩ := hk x rest
    rw [Search.bind_ok]
    refine ⟨fun f => ?_, fun g hm => ?_⟩
    · rw [ht.run f, Except.map, Traced.bind_ok, hrun (found.getLast?.or f)]
      simp only [List.getLast?_append, Option.or_assoc]
    · rcases List.mem_append.1 hm with hm | hm
      · exact ht.found g hm
      · exact hfound g hm

/-- A reference has its failure found. -/
theorem Reports.reference {t : Traced (Float × Option Failure)}
    (hr : ∀ x g, t.result = .ok (x, some g) → P g) (rest : List Text) :
    Reports P (fun f => t >>= fun r => Pure.pure ⟨r.1, rest, r.2.or f⟩)
      (Search.ofTraced t >>= fun x => Pure.pure (x, rest)) := by
  rw [Search.ofTraced]
  rcases t with ⟨notes, result⟩
  cases result with
  | error h => exact ⟨fun _ => rfl, fun _ hm => by cases hm⟩
  | ok r =>
    obtain ⟨x, g⟩ := r
    cases g with
    | none => exact ⟨fun _ => rfl, fun _ hm => by cases hm⟩
    | some g => exact ⟨fun _ => rfl, fun _ hm => List.mem_singleton.1 hm ▸ hr x g rfl⟩

/-- **The searches report** what the rules do. -/
theorem reports_search (hP : HoldsOfRules P)
    (hr : ∀ label x g, (s.reference label).result = .ok (x, some g) → P g) :
    Realizes s.grammarIn s.search (Reports P) where
  labels _ := rfl
  blankIsZero _ := rfl
  pure := .pure
  fail := ⟨.find hP.incomplete, .find hP.parentheses, .find hP.divisionByZero, .find hP.invalid⟩
  reference _ label rest :=
    .reference (fun x g h => hr label x g (reference_of_referenceIn h)) rest
  cut := ⟨fun _ => rfl, fun _ hm => by cases hm⟩
  bind := .bind

/-- Two runs of what a search reports do the same, and pass on what they were given, or a failure
that was found. -/
theorem Reports.stick {t : Option Failure → Traced Step} {m : Search (Float × List Text)}
    (h : Reports P t m) (f f' : Option Failure) :
    (t f').notes = (t f).notes ∧
    (∀ halt, (t f).result = .error halt → (t f').result = .error halt) ∧
    ∀ step, (t f).result = .ok step → ∃ step', (t f').result = .ok step' ∧
      step'.value = step.value ∧ step'.rest = step.rest ∧
      (step.failure = f ∧ step'.failure = f' ∨
        ∃ g, P g ∧ step.failure = some g ∧ step'.failure = some g) := by
  obtain ⟨hrun, hfound⟩ := h
  rw [hrun f, hrun f']
  cases hm : m.result with
  | error halt => exact ⟨rfl, fun _ h => h, fun step h => by cases h⟩
  | ok p =>
    refine ⟨rfl, fun _ h => (by cases h), fun step h => ?_⟩
    cases h
    refine ⟨⟨p.1, p.2, m.found.getLast?.or f'⟩, rfl, rfl, rfl, ?_⟩
    cases hlast : m.found.getLast? with
    | none => exact .inl ⟨rfl, rfl⟩
    | some g => exact .inr ⟨g, hfound g (List.mem_of_getLast? hlast), rfl, rfl⟩

/-- The grammar rules in a setting, at any depth. -/
inductive IsRule (s : Setting) : Rule → Prop
  | expression (depth : Nat) : IsRule s (s.expressionIn depth)
  | term (depth : Nat) : IsRule s (term ((s.grammarIn depth).factor (s.expressionIn depth)))
  | factor (depth : Nat) : IsRule s ((s.grammarIn depth).factor (s.expressionIn depth))

/-- **Every rule** has a search that reports what it does. -/
theorem exists_reports (hP : HoldsOfRules P)
    (hr : ∀ label x g, (s.reference label).result = .ok (x, some g) → P g) {r : Rule}
    (h : s.IsRule r) (tokens : List Text) : ∃ m, Reports P (r tokens) m := by
  have hs := reports_search hP hr
  cases h with
  | expression depth => exact ⟨_, hs.expression depth tokens⟩
  | term depth =>
    rw [term_eq_level]
    exact ⟨_, hs.level (hs.factor depth (hs.expression depth)) tokens⟩
  | factor depth => exact ⟨_, hs.factor depth (hs.expression depth) tokens⟩

end Setting

/-! ## Errors of evaluations -/

namespace Evaluator

variable {o : Options} {source : Source} {origin : Option Text} {tokens : List Text}

/-- The failures that an evaluation of tokens detects, in order: that there is no token; else those
that the rule for expressions finds, and then that it was cut, or that tokens are left over where
nothing was found. -/
def detected (o : Options) (source : Source) (origin : Option Text) (tokens : List Text) :
    List Failure :=
  if tokens.isEmpty then [.empty]
  else
    let m := (setting o source origin).search.expression o.stack.levels tokens
    match m.result with
    | .error (.cut _) => m.found ++ [.invalid]
    | .error (.fault _) => m.found
    | .ok (_, rest) => if m.found.isEmpty && !rest.isEmpty then [.invalid] else m.found

/-- **The error of an evaluation** is the one that was detected last. -/
theorem error_of_outcome {out : Outcome}
    (h : (evaluateTokens o source origin tokens).outcome = .ok out) :
    out.error = Failure.codeOf (detected o source origin tokens).getLast? := by
  by_cases hn : tokens = []
  · subst hn
    rw [evaluateTokens_nil] at h
    rw [outcome_conclude rfl h]
    rfl
  have hs := (Setting.reports_search (s := setting o source origin) (P := fun _ => True)
    ⟨trivial, trivial, trivial, trivial⟩ fun _ _ _ _ => trivial).expression o.stack.levels tokens
  have hrun : (run o source origin tokens).result = _ := congrArg Traced.result (hs.run none)
  rw [detected, if_neg (by simpa using hn)]
  dsimp only
  cases hm : ((setting o source origin).search.expression o.stack.levels tokens).result with
  | error halt =>
    rw [hm] at hrun
    cases halt with
    | fault f =>
      rw [evaluateTokens_of_fault hn hrun] at h
      cases h
    | cut c =>
      rw [evaluateTokens_of_cut hn hrun] at h
      rw [outcome_conclude rfl h]
      simp only [List.getLast?_append, List.getLast?_singleton, Option.some_or]
  | ok p =>
    obtain ⟨x, rest⟩ := p
    rw [hm, Except.map, Option.or_none] at hrun
    rw [evaluateTokens_of_step hn hrun] at h
    rw [outcome_conclude rfl h, Step.verdict]
    cases hfound : ((setting o source origin).search.expression o.stack.levels tokens).found with
    | nil => cases rest <;> rfl
    | cons g found =>
      obtain ⟨last, hlast⟩ := Option.isSome_iff_exists.1 (List.getLast?_isSome.2
        (List.cons_ne_nil g found))
      simp [hlast]

/-- Over a sheet whose errors are texts, every failure that a rule finds has a code that is a text
and not the empty one. -/
theorem exists_reports_code {sheet : Sheet} (hs : sheet.HasTextErrors) {r : Rule}
    (hr : (setting o sheet.source origin).IsRule r) (tokens : List Text) :
    ∃ m, Setting.Reports (fun g => ∃ code, g.code = .str code ∧ code ≠ "") (r tokens) m := by
  refine Setting.exists_reports ⟨⟨_, rfl, by decide⟩, ⟨_, rfl, by decide⟩, ⟨_, rfl, by decide⟩,
    ⟨_, rfl, by decide⟩⟩ (fun label x g hg => ?_) hr tokens
  obtain ⟨code, hcode⟩ := exists_code_of_reference hs hg
  refine ⟨code, hcode, ?_⟩
  rintro rfl
  exact Setting.code_ne_empty_of_reference hg hcode

/-- **Failures stick**: the last one wins, and none steers the reading. Over a sheet whose errors
are texts, let a grammar rule be given two failures, or none, in front of the same tokens. It does
the same in both cases, and is given up in both or in neither. Where it ends it ends with the same
value and the same tokens left; and either it passes on what it was given in both cases, or it has
the same failure in both, with a code that is not empty. So an error is never cleared; and the error
of an evaluation is the one that was detected last. -/
theorem failures_stick {sheet : Sheet} (hs : sheet.HasTextErrors) (o : Options)
    (origin : Option Text) :
    (∀ r, (setting o sheet.source origin).IsRule r → ∀ tokens f f',
      (r tokens f').notes = (r tokens f).notes ∧
      (∀ halt, (r tokens f).result = .error halt → (r tokens f').result = .error halt) ∧
      ∀ step, (r tokens f).result = .ok step → ∃ step', (r tokens f').result = .ok step' ∧
        step'.value = step.value ∧ step'.rest = step.rest ∧
        (step.failure = f ∧ step'.failure = f' ∨
          ∃ g code, step.failure = some g ∧ step'.failure = some g ∧
            g.code = .str code ∧ code ≠ "") ∧
        (Failure.codeOf f ≠ .str "" → Failure.codeOf step.failure ≠ .str "")) ∧
    ∀ e : Evaluator, e.options = o → ∀ (tokens : List Text) (out : Outcome),
      (e.evaluate sheet.source origin (.list (tokens.map .str))).outcome = .ok out →
        out.error = Failure.codeOf (detected o sheet.source origin tokens).getLast? := by
  refine ⟨fun r hr tokens f f' => ?_, ?_⟩
  · obtain ⟨m, hm⟩ := exists_reports_code hs hr tokens
    obtain ⟨hnotes, hhalt, hstep⟩ := hm.stick f f'
    refine ⟨hnotes, hhalt, fun step h => ?_⟩
    obtain ⟨step', h', hvalue, hrest, hfailure⟩ := hstep step h
    refine ⟨step', h', hvalue, hrest, ?_⟩
    rcases hfailure with ⟨rfl, hf'⟩ | ⟨g, ⟨code, hcode, hne⟩, hg, hg'⟩
    · exact ⟨.inl ⟨rfl, hf'⟩, id⟩
    · refine ⟨.inr ⟨g, code, hg, hg', hcode, hne⟩, fun _ hclear => hne ?_⟩
      rw [hg] at hclear
      exact Value.str.inj (hcode.symm.trans hclear)
  · rintro e rfl tokens out h
    rw [evaluate_texts] at h
    exact error_of_outcome h

/-- A reference to an empty cell and then a division by zero: an earlier failure is replaced, and
the division by zero is the error of the evaluation. -/
theorem failures_stick_of_two :
    let tokens : List Text := ["B1", "+", "A1", "/", "0"]
    (∃ step, ((setting .standard Sheet.sevenInA1.source none).expressionIn 2 tokens
      (some .invalid)).result = .ok step ∧ step.failure = some .divisionByZero) ∧
    ∃ out, ((ofOptions .standard).evaluate Sheet.sevenInA1.source none
      (.list (tokens.map .str))).outcome = .ok out ∧ out.error = .str "#DIV/0!" := by
  intro tokens
  obtain ⟨hrules, herror⟩ := failures_stick Sheet.sevenInA1_hasTextErrors .standard none
  have hrun : ((setting .standard Sheet.sevenInA1.source none).expressionIn 2 tokens none).result =
      .ok ⟨0.0 + infinity, [], some .divisionByZero⟩ := rfl
  have hout : ((ofOptions .standard).evaluate Sheet.sevenInA1.source none
      (.list (tokens.map .str))).outcome = .ok ⟨0.0 + infinity, .str "#DIV/0!"⟩ := rfl
  have hdetected : detected .standard Sheet.sevenInA1.source none tokens =
      [.reference, .divisionByZero] := rfl
  refine ⟨?_, _, hout, ?_⟩
  · obtain ⟨-, -, hstep⟩ := hrules _ (.expression 2) tokens none (some .invalid)
    obtain ⟨step, hs, -, -, ⟨hf, -⟩ | ⟨g, code, hg, hg', -⟩, -⟩ := hstep _ hrun
    · cases hf
    · exact ⟨step, hs, hg'.trans hg.symm⟩
  · rw [herror (ofOptions .standard) rfl tokens _ hout, hdetected]
    rfl

end Evaluator

end FormulaSheet
