import FormulaSheet.Proofs.Formula.Guard
import FormulaSheet.Proofs.Sheet.References

/-!
# Sheets stay acyclic

Formulas are entered into a sheet one after the other, each under a label of its own or in place of
the formula that is stored there. A formula is tried first, on behalf of its label, and is stored
only if it has a value. The check for circular references looks at the sheet as it was before; this
module shows that it is enough for the sheet afterwards.

The argument is about paths. What is stored replaces the references of one label. A path in the new
graph that leads to this label can be cut at its first visit there, and has only references that
were there before; so if none of the new references lead back in the old graph, none do in the new
one, and a circle that does not go through the label was there before as well.

* `acyclic_of_replaced`: the argument, for any graph;
* `Sheet.Acyclic.enter`: one formula;
* `Sheet.acyclic_enterAll_blank`: any formulas, in any order.
-/

namespace FormulaSheet

open Relation

/-! ## Replacing what one node leads to -/

section Graph

variable {α : Type} {r r' : α → α → Prop} {x : α}

/-- A path to the node can be cut at the first visit there: it has only edges that stayed. -/
theorem reflTransGen_of_replaced (hr : ∀ a b, a ≠ x → r' a b → r a b) {a : α}
    (h : ReflTransGen r' a x) : ReflTransGen r a x := by
  induction h using ReflTransGen.head_induction_on with
  | refl => exact .refl
  | @head a b hab _ ih =>
    by_cases ha : a = x
    · rw [ha]
    · exact .head (hr a b ha hab) ih

/-- A path has only edges that stayed, or goes through the node. -/
theorem transGen_split_of_replaced (hr : ∀ a b, a ≠ x → r' a b → r a b) {a b : α}
    (h : TransGen r' a b) : TransGen r a b ∨ ReflTransGen r' a x ∧ TransGen r' x b := by
  induction h using TransGen.head_induction_on with
  | @single a hab =>
    by_cases ha : a = x
    · exact .inr ⟨ha ▸ .refl, .single (ha ▸ hab)⟩
    · exact .inl (.single (hr a b ha hab))
  | @head a c hac hcb ih =>
    by_cases ha : a = x
    · exact .inr ⟨ha ▸ .refl, .head (ha ▸ hac) hcb⟩
    · rcases ih with ih | ⟨hcx, hxb⟩
      · exact .inl (.head (hr a c ha hac) ih)
      · exact .inr ⟨.head hac hcx, hxb⟩

/-- **Replacing what one node leads to** makes no circle if nothing that it leads to now has led
back before. -/
theorem acyclic_of_replaced (hr : ∀ a b, a ≠ x → r' a b → r a b)
    (hx : ∀ b, r' x b → ¬ ReflTransGen r b x) (ha : ∀ a, ¬ TransGen r a a) (a : α) :
    ¬ TransGen r' a a := by
  intro h
  rcases transGen_split_of_replaced hr h with h | ⟨hax, hxa⟩
  · exact ha a h
  · have hxx : TransGen r' x x := hxa.trans_left hax
    obtain ⟨b, hxb, hbx⟩ := TransGen.head'_iff.1 hxx
    exact hx b hxb (reflTransGen_of_replaced hr hbx)

end Graph

/-! ## Entering formulas -/

/-- A formula that is to be entered under a label, with the evaluator that it is tried with. -/
structure Entry where
  /-- the label -/
  label : Text
  /-- the formula -/
  formula : Value
  /-- the evaluator -/
  evaluator : Evaluator
  /-- it looks for circular references -/
  checksCycles : evaluator.options.checkCycles = true
  /-- it takes texts of the form of a label for labels -/
  pattern : evaluator.options.labels = .pattern

namespace Sheet

variable {s : Sheet}

/-- Enters a formula: evaluates it for its label, and stores it with what came out if that is a
value. The sheet stays as it was if the formula has an error, or if a call fails. -/
def enter (s : Sheet) (entry : Entry) : Sheet :=
  match (entry.evaluator.evaluate s.source (some entry.label) entry.formula).outcome with
  | .error _ => s
  | .ok o =>
    if o.ok then
      match s.set entry.label entry.formula (.float o.value) o.error with
      | .error _ => s
      | .ok (_, t) => t
    else s

/-- Enters formulas one after the other. -/
def enterAll (s : Sheet) (entries : List Entry) : Sheet :=
  entries.foldl enter s

/-- A formula that is entered leaves the sheet alone, or it has a value and is stored. -/
theorem enter_eq_or (s : Sheet) (entry : Entry) : s.enter entry = s ∨
    ∃ o cell ha, (entry.evaluator.evaluate s.source (some entry.label) entry.formula).outcome =
        .ok o ∧ o.ok = true ∧ entry.formula.elements = .ok cell.formula ∧
      s.enter entry = s.put entry.label cell ha := by
  rw [enter]
  cases ho : (entry.evaluator.evaluate s.source (some entry.label) entry.formula).outcome with
  | error f => exact .inl rfl
  | ok o =>
    cases hok : o.ok with
    | false => exact .inl (by simp [hok])
    | true =>
      cases hs : s.set entry.label entry.formula (.float o.value) o.error with
      | error f => exact .inl (by simp [hok, hs])
      | ok stored =>
        obtain ⟨cell, t⟩ := stored
        obtain ⟨hv, ha, rfl⟩ := set_eq_ok_iff.1 hs
        exact .inr ⟨o, cell, ha, rfl, hok, (eq_of_ofValues hv).1, by simp [hok, hs]⟩

/-- **Entering a formula** keeps the sheet acyclic. -/
theorem Acyclic.enter (hs : s.Acyclic .pattern) (entry : Entry) :
    (s.enter entry).Acyclic .pattern := by
  rcases s.enter_eq_or entry with he | ⟨o, cell, ha, ho, hok, ht, he⟩
  · rw [he]
    exact hs
  · rw [he]
    refine acyclic_of_replaced (fun via other hn => (refers_put_of_ne hn).1) ?_ hs
    -- the formula was tried on the sheet as it was, and there none of its labels leads back
    intro other hr hback
    obtain ⟨hm, hl⟩ := refers_put_self.1 hr
    obtain ⟨hne, hleads⟩ :=
      Evaluator.not_leads_of_ok entry.checksCycles entry.pattern ho hok ht hm hl
    rcases reflTransGen_iff_eq_or_transGen.1 hback with heq | hback
    · exact hne heq.symm
    · exact hleads (leads_of_transGen hback)

theorem Acyclic.enterAll (hs : s.Acyclic .pattern) (entries : List Entry) :
    (s.enterAll entries).Acyclic .pattern := by
  induction entries generalizing s with
  | nil => exact hs
  | cons entry entries ih => exact ih (hs.enter entry)

theorem acyclic_blank (g : Grid) (c : LabelClass) : (blank g).Acyclic c := by
  intro label h
  obtain ⟨other, ⟨cell, hf, -⟩, -⟩ := TransGen.head'_iff.1 h
  cases hf

/-- **Sheets stay acyclic.** Whatever formulas are entered into an empty sheet, in whatever order
and with whatever formulas taking the place of others, no label leads back to itself. -/
theorem acyclic_enterAll_blank (g : Grid) (entries : List Entry) :
    ((blank g).enterAll entries).Acyclic .pattern :=
  (acyclic_blank g .pattern).enterAll entries

/-- The tokens of the formula at a label, if there is one. -/
def tokensAt? (s : Sheet) (label : Text) : Option (List Text) := do
  (Evaluator.tokensOf (.list (← s.cells.find? label).formula)).toOption

/-- Tokens that are to be entered under a label, with the standard options. -/
def entryOf (label : Text) (tokens : List Text) : Entry :=
  ⟨label, .list (tokens.map .str), .ofOptions .standard, rfl, rfl⟩

/-- Of a formula that leads back to its own cell nothing is stored; one that does not takes the
place of another. -/
theorem acyclic_enterAll_replacing :
    let s := (blank .standard).enterAll [entryOf "B1" ["2"], entryOf "A1" ["B1", "+", "1"],
      entryOf "B1" ["A1", "*", "A1"], entryOf "A1" ["(", "B1", "+", "B1", ")"]]
    s.Acyclic .pattern ∧ s.tokensAt? "B1" = some [("2" : Text)] ∧
      s.tokensAt? "A1" = some [("(" : Text), "B1", "+", "B1", ")"] := by
  refine ⟨acyclic_enterAll_blank .standard _, ?_, ?_⟩ <;> decide +kernel

end Sheet

end FormulaSheet
