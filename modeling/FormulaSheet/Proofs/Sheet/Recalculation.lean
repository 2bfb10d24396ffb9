import FormulaSheet.Proofs.Formula.Outcome
import FormulaSheet.Proofs.Sheet.Locality
import FormulaSheet.Sheet.Recalculation

/-!
# Recalculation in order of dependency

All cells with a formula are recalculated one after the other, each behind those that its formula
refers to. Each cell then keeps what its formula gives in the sheet that comes out in the end, and
nothing of what was kept before has an influence on it: neither the order, where the references
leave a choice, nor the values and errors that were there.

* `recalculateAll_sameButForResults`: what recalculation leaves alone;
* `upToDate_of_recalculateAll`: the cells are up to date. What is stored for one cell is not
  disturbed behind it, since those it refers to do not come again;
* `eq_of_upToDate`: a sheet that is up to date is the only one among those with its formulas.
-/

namespace FormulaSheet

namespace Sheet

variable {s t : Sheet} {e : Evaluator} {label : Text} {order : List Text}

/-! ## One cell -/

/-- What recalculating a stored cell comes to: its formula is evaluated, and what comes out is
stored with it. -/
theorem exists_put_of_recalculate {cell : Cell} (hc : s.cells.find? label = some cell)
    {evaluated : Evaluated} {o : Outcome}
    (h : s.recalculate e label = .ok (evaluated, .ok (o, t))) :
    evaluated = e.evaluate s.source (some label) (.list cell.formula) ∧ evaluated.outcome = .ok o ∧
      ∃ ha, t = s.put label ⟨cell.formula, o.value, o.error⟩ ha := by
  have hg : s.get label = .ok cell := by rw [get, hc]
  simp only [recalculate, hg, Except.ok.injEq, Prod.mk.injEq] at h
  obtain ⟨rfl, h⟩ := h
  refine ⟨rfl, ?_⟩
  rw [store] at h
  obtain ⟨o', ho, h⟩ := bind_eq_ok_iff.1 h
  obtain ⟨⟨stored, t'⟩, hs, h⟩ := bind_eq_ok_iff.1 h
  cases h
  refine ⟨ho, ?_⟩
  obtain ⟨hv, ha, rfl⟩ := set_eq_ok_iff.1 hs
  obtain ⟨hf, hx, he⟩ := eq_of_ofValues hv
  refine ⟨ha, ?_⟩
  -- the error of an outcome is a text, so that storing does not put a default in its place
  have hnull : o.error ≠ .null := by
    intro hn
    have hp := Evaluator.plainText_of_evaluate ho
    rw [hn] at hp
    cases hp
  have hstored : stored = ⟨cell.formula, o.value, o.error⟩ := by
    rcases stored with ⟨formula, value, error⟩
    rw [Cell.mk.injEq]
    exact ⟨(Except.ok.inj hf).symm, (Except.ok.inj hx).symm, he hnull⟩
  rw [hstored]

theorem sameButForResults_put {cell : Cell} (hc : s.cells.find? label = some cell)
    (hn : cell.formula ≠ []) (o : Outcome) (ha : s.grid.Admits label) :
    s.SameButForResults (s.put label ⟨cell.formula, o.value, o.error⟩ ha) := by
  refine ⟨rfl, (Register.names_put_of_mem _ (Register.mem_names_of_find? hc)).symm, ?_⟩
  intro other cell' hs
  rw [find?_put]
  by_cases he : other = label
  · rw [if_pos he]
    obtain rfl : cell' = cell := Option.some.inj ((he ▸ hs).symm.trans hc)
    exact ⟨_, rfl, rfl, fun hf => absurd hf hn⟩
  · rw [if_neg he]
    exact ⟨cell', hs, rfl, fun _ => rfl⟩

/-! ## All cells -/

/-- Recalculates cells one after the other, with one evaluator for all of them. -/
def recalculateAll (s : Sheet) (e : Evaluator) : List Text → Except Fault Sheet
  | [] => .ok s
  | label :: labels => do
    let (evaluated, stored) ← s.recalculate e label
    let (_, t) ← stored
    recalculateAll t evaluated.evaluator labels

/-- The first of some cells is recalculated, and then the others. -/
theorem recalculateAll_cons {cell : Cell} (hc : s.cells.find? label = some cell)
    (h : s.recalculateAll e (label :: order) = .ok t) :
    ∃ o ha e', (e.evaluate s.source (some label) (.list cell.formula)).outcome = .ok o ∧
      e'.options = e.options ∧
      (s.put label ⟨cell.formula, o.value, o.error⟩ ha).recalculateAll e' order = .ok t := by
  rw [recalculateAll] at h
  obtain ⟨⟨evaluated, stored⟩, hr, h⟩ := bind_eq_ok_iff.1 h
  obtain ⟨⟨o, u⟩, hs, h⟩ := bind_eq_ok_iff.1 h
  cases hs
  obtain ⟨rfl, ho, ha, rfl⟩ := exists_put_of_recalculate hc hr
  exact ⟨o, ha, _, ho, Evaluator.options_evaluate _ _ _ _, h⟩

/-- **What recalculation leaves alone**: the sheet but for results, and the cells that are not
recalculated. -/
theorem recalculateAll_sameButForResults (h : s.recalculateAll e order = .ok t)
    (hf : ∀ label ∈ order, s.HoldsFormula label) :
    s.SameButForResults t ∧ ∀ label ∉ order, t.cells.find? label = s.cells.find? label := by
  induction order generalizing s e with
  | nil =>
    cases h
    exact ⟨.refl _, fun _ _ => rfl⟩
  | cons first order ih =>
    obtain ⟨cell, hc, hn⟩ := hf first List.mem_cons_self
    obtain ⟨o, ha, e', -, -, h⟩ := recalculateAll_cons hc h
    have hput := sameButForResults_put hc hn o ha
    obtain ⟨hsame, hkeep⟩ :=
      ih h fun label hm => hput.holdsFormula (hf label (List.mem_cons_of_mem _ hm))
    refine ⟨hput.trans hsame, fun label hm => ?_⟩
    obtain ⟨hne, hm⟩ := List.ne_and_not_mem_of_not_mem_cons hm
    rw [hkeep label hm, find?_put, if_neg hne]

/-- An order of the cells with a formula in which each comes behind all that it refers to. -/
structure DependencyOrder (s : Sheet) (c : LabelClass) (order : List Text) : Prop where
  nodup : order.Nodup
  mem_iff : ∀ label, label ∈ order ↔ s.HoldsFormula label
  behind : ∀ before label rest, order = before ++ label :: rest →
    ∀ other, s.Refers c label other → s.HoldsFormula other → other ∈ before

/-- The cell keeps what its formula gives. -/
def UpToDate (s : Sheet) (o : Options) (label : Text) : Prop :=
  ∀ cell, s.cells.find? label = some cell → ∀ e : Evaluator, e.options = o →
    (e.evaluate s.source (some label) (.list cell.formula)).outcome = .ok ⟨cell.value, cell.error⟩

/-- **Cells are up to date** once they were recalculated, each behind all that it refers to. -/
theorem upToDate_of_recalculateAll (h : s.recalculateAll e order = .ok t)
    (hf : ∀ label ∈ order, s.HoldsFormula label) (hd : order.Nodup)
    (hb : ∀ before label rest, order = before ++ label :: rest →
      ∀ other, s.Refers e.options.labels label other → s.HoldsFormula other →
        other ∉ label :: rest) :
    ∀ label ∈ order, t.UpToDate e.options label := by
  induction order generalizing s e with
  | nil =>
    intro label hm
    cases hm
  | cons first order ih =>
    obtain ⟨hfirst, hd⟩ := List.nodup_cons.1 hd
    have hall := recalculateAll_sameButForResults h hf
    obtain ⟨cell, hc, hn⟩ := hf first List.mem_cons_self
    obtain ⟨o, ha, e', ho, he', h⟩ := recalculateAll_cons hc h
    have hput := sameButForResults_put hc hn o ha
    have hf' : ∀ label ∈ order,
        (s.put first ⟨cell.formula, o.value, o.error⟩ ha).HoldsFormula label :=
      fun label hm => hput.holdsFormula (hf label (List.mem_cons_of_mem _ hm))
    intro label hm
    rcases List.mem_cons.1 hm with rfl | hm
    · -- nothing that the first cell refers to is recalculated from here on
      intro cell' hc' e'' he''
      obtain ⟨-, hkeep⟩ := recalculateAll_sameButForResults h hf'
      rw [hkeep label hfirst, find?_put, if_pos rfl] at hc'
      cases hc'
      have hsee := hall.1.evaluate_eq e hc fun other hr hh =>
        hall.2 other (hb [] label order rfl other hr hh)
      rw [Evaluator.evaluate_eq_of_options he'', ← hsee, ho]
    · -- for the others the first cell is one of those that were recalculated before
      rw [← he']
      refine ih h hf' hd (fun before label rest heq other hr hh => ?_) label hm
      rw [he'] at hr
      have hcons : first :: order = (first :: before) ++ label :: rest := by
        rw [heq, List.cons_append]
      exact hb _ _ _ hcons other (hput.symm.refers hr) (hput.symm.holdsFormula hh)

/-! ## One sheet comes out -/

theorem DependencyOrder.of_sameButForResults {c : LabelClass} (hd : s.DependencyOrder c order)
    (h : s.SameButForResults t) : t.DependencyOrder c order := by
  refine ⟨hd.nodup, fun label => ?_, fun before label rest heq other hr hh => ?_⟩
  · rw [hd.mem_iff]
    exact ⟨h.holdsFormula, h.symm.holdsFormula⟩
  · exact hd.behind before label rest heq other (h.symm.refers hr) (h.symm.holdsFormula hh)

theorem eq_of_cells (hg : s.grid = t.grid) (hc : s.cells = t.cells) : s = t := by
  rcases s with ⟨grid, cells, hn, ha⟩
  rcases t with ⟨grid', cells', hn', ha'⟩
  obtain rfl : grid = grid' := hg
  obtain rfl : cells = cells' := hc
  rfl

/-- Two cells that are up to date and have the same formula are the same, if all cells with a
formula that it refers to are. -/
theorem find?_eq_of_upToDate {o : Options} (h : s.SameButForResults t)
    (hl : s.HoldsFormula label) (hs : s.UpToDate o label) (ht : t.UpToDate o label)
    (hb : ∀ via, s.Refers o.labels label via → s.HoldsFormula via →
      t.cells.find? via = s.cells.find? via) : t.cells.find? label = s.cells.find? label := by
  obtain ⟨cell, hc, -⟩ := hl
  obtain ⟨cell', hc', hf, -⟩ := h.cell label cell hc
  have hsee := h.evaluate_eq (Evaluator.ofOptions o) hc hb
  have hv := hs cell hc (Evaluator.ofOptions o) rfl
  have hv' := ht cell' hc' (Evaluator.ofOptions o) rfl
  rw [hf, ← hsee, hv] at hv'
  rcases cell with ⟨formula, value, error⟩
  rcases cell' with ⟨formula', value', error'⟩
  cases hf
  cases hv'
  rw [hc, hc']

/-- Cell by cell in order of dependency, what a formula gives is settled by what stands before
it. -/
theorem find?_eq_of_order {o : Options} (h : s.SameButForResults t)
    (hd : s.DependencyOrder o.labels order) (hs : ∀ label ∈ order, s.UpToDate o label)
    (ht : ∀ label ∈ order, t.UpToDate o label) {before rest : List Text}
    (heq : order = before ++ rest)
    (hb : ∀ label ∈ before, t.cells.find? label = s.cells.find? label) :
    ∀ label ∈ order, t.cells.find? label = s.cells.find? label := by
  induction rest generalizing before with
  | nil =>
    rw [heq, List.append_nil]
    exact hb
  | cons label rest ih =>
    have hm : label ∈ order := heq ▸ List.mem_append_right _ List.mem_cons_self
    have hlabel : t.cells.find? label = s.cells.find? label :=
      find?_eq_of_upToDate h ((hd.mem_iff label).1 hm) (hs label hm) (ht label hm)
        fun via hr hh => hb via (hd.behind before label rest heq via hr hh)
    have happ : order = (before ++ [label]) ++ rest := by
      rw [heq, List.append_assoc]
      rfl
    refine ih happ fun other hm => ?_
    rcases List.mem_append.1 hm with hm | hm
    · exact hb other hm
    · rw [List.mem_singleton.1 hm, hlabel]

/-- **A sheet that is up to date** is the only one among those with its formulas. -/
theorem eq_of_upToDate {o : Options} (h : s.SameButForResults t)
    (hd : s.DependencyOrder o.labels order) (hs : ∀ label ∈ order, s.UpToDate o label)
    (ht : ∀ label ∈ order, t.UpToDate o label) : s = t := by
  refine eq_of_cells h.grid (Register.eq_of_find? s.nodup h.names fun label => ?_)
  cases hc : s.cells.find? label with
  | none => exact (h.find?_eq_none hc).symm
  | some cell =>
    by_cases hf : cell.formula = []
    · -- a cell without a formula was left alone
      obtain ⟨cell', hc', -, hp⟩ := h.cell label cell hc
      rw [hc', hp hf]
    · have hm : label ∈ order := (hd.mem_iff label).2 ⟨cell, hc, hf⟩
      have hnone : ∀ label ∈ ([] : List Text), t.cells.find? label = s.cells.find? label := by
        intro label hm
        cases hm
      rw [find?_eq_of_order h hd hs ht (List.nil_append order).symm hnone label hm, hc]

theorem DependencyOrder.upToDate {final : Sheet}
    (hd : s.DependencyOrder e.options.labels order) (h : s.recalculateAll e order = .ok final) :
    ∀ label ∈ order, final.UpToDate e.options label := by
  refine upToDate_of_recalculateAll h (fun label => (hd.mem_iff label).1) hd.nodup ?_
  intro before label rest heq other hr hh hm
  have hn : (before ++ label :: rest).Nodup := heq ▸ hd.nodup
  obtain ⟨-, -, hdisjoint⟩ := List.nodup_append.1 hn
  exact hdisjoint other (hd.behind before label rest heq other hr hh) other hm rfl

/-- **Recalculation reaches a fixed point, and only one.** Recalculate all cells with a formula,
each behind those that it refers to. Afterwards every formula gives what is kept for its cell. Any
other such order gives the same sheet, also if it starts from other values and errors of these
cells. -/
theorem recalculateAll_confluent {final final' : Sheet} {e' : Evaluator} {order' : List Text}
    (hst : s.SameButForResults t) (he : e.options = e'.options)
    (ho : s.DependencyOrder e.options.labels order)
    (ho' : t.DependencyOrder e.options.labels order')
    (h : s.recalculateAll e order = .ok final) (h' : t.recalculateAll e' order' = .ok final') :
    (∀ label, final.HoldsFormula label → final.UpToDate e.options label) ∧ final = final' := by
  have hsame := (recalculateAll_sameButForResults h fun label => (ho.mem_iff label).1).1
  have hsame' := (recalculateAll_sameButForResults h' fun label => (ho'.mem_iff label).1).1
  have hd := ho.of_sameButForResults hsame
  have hup := ho.upToDate h
  have hup' := (he ▸ ho').upToDate h'
  refine ⟨fun label hl => hup label ((hd.mem_iff label).2 hl), ?_⟩
  refine eq_of_upToDate ((hsame.symm.trans hst).trans hsame') hd hup fun label hm => ?_
  -- the second order has the same cells, since the sheets have the same formulas
  rw [he]
  exact hup' label ((ho'.mem_iff label).2 (hst.holdsFormula ((ho.mem_iff label).1 hm)))

/-- A sheet in which `B2` multiplies `B1` with itself, and `B3` has a parenthesis around `B1` that
is not closed. The results may be any. -/
def squared (x y z : Float) (error : Text) : Sheet :=
  (((blank .standard).put "B1" ⟨[.str "2"], x, .str ""⟩ ⟨⟨0, 1⟩, rfl⟩).put "B2"
    ⟨[.str "B1", .str "*", .str "B1"], y, .str ""⟩ ⟨⟨1, 1⟩, rfl⟩).put "B3"
    ⟨[.str "(", .str "B1"], z, .str error⟩ ⟨⟨2, 1⟩, rfl⟩

theorem eq_of_refers_squared {x y z : Float} {error other : Text}
    (h : (squared x y z error).Refers .pattern label other) :
    (label = "B2" ∨ label = "B3") ∧ other = "B1" := by
  obtain ⟨cell, hf, hm, hl⟩ := h
  have hn : label ∈ [("B1" : Text), "B2", "B3"] := Register.mem_names_of_find? hf
  simp only [List.mem_cons, List.not_mem_nil, or_false] at hn
  rcases hn with rfl | rfl | rfl <;> cases hf <;>
    simp only [List.mem_cons, List.not_mem_nil, or_false, Value.str.injEq] at hm
  · subst hm
    exact absurd hl (by decide)
  · rcases hm with rfl | rfl | rfl
    · exact ⟨.inl rfl, rfl⟩
    · exact absurd hl (by decide)
    · exact ⟨.inl rfl, rfl⟩
  · rcases hm with rfl | rfl
    · exact absurd hl (by decide)
    · exact ⟨.inr rfl, rfl⟩

theorem squared_sameButForResults (x y z x' y' z' : Float) (error error' : Text) :
    (squared x y z error).SameButForResults (squared x' y' z' error') := by
  refine ⟨rfl, rfl, fun label cell hf => ?_⟩
  have hn : label ∈ [("B1" : Text), "B2", "B3"] := Register.mem_names_of_find? hf
  simp only [List.mem_cons, List.not_mem_nil, or_false] at hn
  rcases hn with rfl | rfl | rfl <;> cases hf <;>
    exact ⟨_, rfl, rfl, fun h => absurd h (List.cons_ne_nil _ _)⟩

theorem squared_dependencyOrder (x y z : Float) (error : Text)
    (h : order = [("B1" : Text), "B2", "B3"] ∨ order = [("B1" : Text), "B3", "B2"]) :
    (squared x y z error).DependencyOrder .pattern order := by
  have hmem : ∀ label, label ∈ order ↔ label = "B1" ∨ label = "B2" ∨ label = "B3" := by
    intro label
    rcases h with rfl | rfl
    · simp
    · simp only [List.mem_cons, List.not_mem_nil, or_false]
      exact or_congr_right or_comm
  refine ⟨?_, fun label => ?_, fun before label rest heq other hr _ => ?_⟩
  · rcases h with rfl | rfl <;> decide
  · rw [hmem]
    constructor
    · rintro (rfl | rfl | rfl) <;> exact ⟨_, rfl, List.cons_ne_nil _ _⟩
    · rintro ⟨cell, hf, -⟩
      have hn : label ∈ [("B1" : Text), "B2", "B3"] := Register.mem_names_of_find? hf
      simpa using hn
  · obtain ⟨hl, rfl⟩ := eq_of_refers_squared hr
    -- `B1` is the first cell, and refers to none
    cases before with
    | nil =>
      have hfirst : label = "B1" := by
        rcases h with rfl | rfl <;> exact (List.cons.inj heq).1.symm
      rw [hfirst] at hl
      exact absurd hl (by decide)
    | cons first before =>
      have hfirst : first = "B1" := by
        rcases h with rfl | rfl <;> exact (List.cons.inj heq).1.symm
      rw [hfirst]
      exact List.mem_cons_self

/-- Whether the value and the error are kept for a cell. -/
def keeps (s : Sheet) (label : Text) (x : Float) (error : Text) : Bool :=
  match s.cells.find? label with
  | some ⟨_, value, .str text⟩ => value == x && text == error
  | _ => false

/-- Both orders lead to the same, whatever was there before: a value, its square, and an error. No
cell refers to itself, and this is looked for. -/
theorem recalculateAll_squared : ∃ final final',
    (squared 1 2 3 "").recalculateAll (.ofOptions .standard) ["B1", "B2", "B3"] = .ok final ∧
      (squared 4 5 6 "").recalculateAll (.ofOptions .standard) ["B1", "B3", "B2"] = .ok final' ∧
      (∀ label, final.HoldsFormula label → final.UpToDate .standard label) ∧ final = final' ∧
      final.keeps "B1" 2 "" = true ∧ final.keeps "B2" 4 "" = true ∧
      final.keeps "B3" 2 "#PAREN!" = true := by
  have htest : ((squared 1 2 3 "").recalculateAll (.ofOptions .standard)
      ["B1", "B2", "B3"]).toOption.any (fun s => s.keeps "B1" 2 "" && s.keeps "B2" 4 "" &&
        s.keeps "B3" 2 "#PAREN!") = true := by
    decide +kernel
  have htest' : ((squared 4 5 6 "").recalculateAll (.ofOptions .standard)
      ["B1", "B3", "B2"]).toOption.any (fun _ => true) = true := by
    decide +kernel
  obtain ⟨final, h, hkeeps⟩ := exists_ok_of_any htest
  obtain ⟨final', h', -⟩ := exists_ok_of_any htest'
  simp only [Bool.and_eq_true, and_assoc] at hkeeps
  obtain ⟨hup, hsame⟩ := recalculateAll_confluent (squared_sameButForResults 1 2 3 4 5 6 "" "") rfl
    (squared_dependencyOrder 1 2 3 "" (.inl rfl)) (squared_dependencyOrder 4 5 6 "" (.inr rfl)) h h'
  exact ⟨final, final', h, h', hup, hsame, hkeeps⟩

end Sheet

end FormulaSheet
