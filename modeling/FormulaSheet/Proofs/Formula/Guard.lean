import FormulaSheet.Proofs.Formula.Denotation
import FormulaSheet.Proofs.Formula.Walk
import FormulaSheet.Proofs.Label
import FormulaSheet.Proofs.Result

/-!
# What the check for circular references ensures

References are checked one by one while a formula is evaluated. That the check covers the whole
formula is not evident: the evaluation passes over tokens after a failure, gives up the rest of a
term that divides by zero, and takes tokens for numbers before it asks whether they are labels.
None of this happens where an evaluation ends without an error.

* `reference_of_expression`: a formula that was read without a failure has followed each of its
  labels, and no reference failed;
* `not_leads_of_ok`: no label of the formula leads back to the cell that it was evaluated for.
-/

namespace FormulaSheet

theorem not_isSign_of_isLabel {token : Text} (h : Label.isLabel token = true) :
    ¬ IsSign token := by
  rintro (rfl | rfl | ⟨op, rfl⟩)
  · exact absurd h (by decide)
  · exact absurd h (by decide)
  · revert h
    cases op <;> decide

namespace Setting

variable {s : Setting} {origin label : Text}

/-- **A formula that was read without a failure** has followed each of its labels, and no reference
failed. -/
theorem reference_of_expression {depth : Nat} {tokens : List Text} {x : Float}
    (h : (s.expression depth tokens none).result = .ok ⟨x, [], none⟩) {token : Text}
    (hm : token ∈ tokens) (hn : Token.number? s.blankIsZero token = none) (hs : ¬ IsSign token) :
    ∃ y, (s.reference token).result = .ok (y, none) := by
  obtain ⟨t, hd, -, hv⟩ := (expression_ok_iff s.trusts_yield?).1 h
  have ht : token ∈ t.labels := Derives.mem_labels hd hm hn hs
  obtain ⟨y, hy⟩ := Tree.exists_of_mem_labels hv ht
  exact ⟨y, (s.trusts_yield? token y).2 hy⟩

theorem isCircular_of_reference {x : Float} (h : (s.reference label).result = .ok (x, none)) :
    (s.isCircular label).result = .ok false := by
  cases reference_ok_iff.1 h with
  | read hc _ _ => exact hc

/-- A label that passes the check is not the guarded cell and does not lead there. -/
theorem not_leads_of_isCircular (hg : s.guarded = some origin)
    (h : (s.isCircular label).result = .ok false) :
    label ≠ origin ∧ ¬ s.source.Leads s.labels label origin := by
  simp only [isCircular, hg] at h
  split at h
  · cases h
  · rename_i hne
    exact ⟨hne, Source.not_leads_of_reaches h⟩

end Setting

namespace Evaluator

theorem eq_of_ok {o : Outcome} (h : o.ok = true) : o = ⟨o.value, .str ""⟩ := by
  rcases o with ⟨x, error⟩
  rw [Outcome.ok] at h
  split at h
  · rename_i text he
    obtain rfl : error = .str text := he
    obtain rfl := eq_of_beq h
    rfl
  · cases h

/-- **No label of a formula that has a value leads back** to the cell that the formula was evaluated
for, if circular references are looked for. -/
theorem not_leads_of_ok {e : Evaluator} (hc : e.options.checkCycles = true)
    (hl : e.options.labels = .pattern) {source : Source} {origin : Text} {formula : Value}
    {o : Outcome} (h : (e.evaluate source (some origin) formula).outcome = .ok o)
    (ho : o.ok = true) {tokens : List Value} (ht : formula.elements = .ok tokens) {label : Text}
    (hm : .str label ∈ tokens) (hlabel : Label.isLabel label = true) :
    label ≠ origin ∧ ¬ source.Leads .pattern label origin := by
  rw [evaluate] at h
  cases hx : tokensOf formula with
  | error f =>
    rw [hx] at h
    cases h
  | ok texts =>
    have hmap : tokens.mapM Value.text = .ok texts := by
      rw [tokensOf, ht] at hx
      exact hx
    obtain ⟨text, hmem, htext⟩ := exists_of_mem_of_mapM hmap hm
    obtain rfl : label = text := Except.ok.inj htext
    simp only [hx] at h
    rw [eq_of_ok ho, outcome_clear_iff] at h
    obtain ⟨-, hr⟩ := h
    -- the label is neither a number nor a sign, so that it was followed as a reference
    obtain ⟨y, hy⟩ := Setting.reference_of_expression (Setting.expression_of_run hr 0) hmem
      (Token.number?_eq_none_of_isLabel hlabel) (not_isSign_of_isLabel hlabel)
    have hg : (setting e.options source (some origin)).guarded = some origin := by
      simp [setting, hc]
    have hn := Setting.not_leads_of_isCircular hg (Setting.isCircular_of_reference hy)
    rw [← hl]
    exact hn

end Evaluator

end FormulaSheet
