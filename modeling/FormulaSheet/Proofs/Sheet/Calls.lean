import FormulaSheet.Proofs.Label.Position
import FormulaSheet.Proofs.Sheet.References

/-!
# Sheets as bounded maps

Whoever works with a sheet sees a map from labels to cells that is bounded by the grid. The map is
what the calls on the sheet have left in it: under each label the cell of the last call that stored
one there. A label under which nothing was stored has an empty cell if it names a position inside
the grid, and is refused otherwise.

The calls are those that store a cell and those that read. A call that stores may fail, at the label
or at what is to be stored; then nothing has happened.

* `Grid.admits_iff_holds`: which labels a sheet accepts;
* `cells_after`, `cells_run`: what one call and what many calls leave in the sheet;
* `labels_rowByRow`: the labels of a sheet come row by row;
* `names_listing`, `find?_listing`: the cells of a sheet in the order of its labels;
* `isBoundedMap_run`: after any calls a sheet is the map of what they have stored.
-/

namespace FormulaSheet

/-- The first position does not come after the second, row by row. -/
def Position.NotAfter (p q : Position) : Prop :=
  p.row < q.row ∨ p.row = q.row ∧ p.column ≤ q.column

namespace Position

instance (p q : Position) : Decidable (p.NotAfter q) :=
  inferInstanceAs (Decidable (_ ∨ _))

theorem notAfter_trans {p q r : Position} (h : p.NotAfter q) (h' : q.NotAfter r) :
    p.NotAfter r := by
  unfold NotAfter at *
  omega

theorem notAfter_total (p q : Position) : p.NotAfter q ∨ q.NotAfter p := by
  unfold NotAfter
  omega

end Position

/-! ## Labels of a grid -/

namespace Grid

variable {g : Grid} {label : Text}

/-- The position is inside the grid. -/
def Covers (g : Grid) (p : Position) : Prop :=
  (0 ≤ p.row ∧ p.row < g.rows) ∧ 0 ≤ p.column ∧ p.column < g.columns

/-- The label names a position inside the grid. -/
def Holds (g : Grid) (label : Text) : Prop :=
  ∃ p, Label.position label = .ok p ∧ g.Covers p

/-- **A sheet accepts** the labels that name a position inside its grid. -/
theorem admits_iff_holds : g.Admits label ↔ g.Holds label := by
  refine exists_congr fun p => ?_
  rw [locate_eq_ok_iff, Covers]
  constructor
  · rintro ⟨hp, hr, hc⟩
    obtain ⟨hrow, hcolumn⟩ := Label.position_nonneg hp
    exact ⟨hp, ⟨hrow, hr⟩, hcolumn, hc⟩
  · rintro ⟨hp, ⟨-, hr⟩, -, hc⟩
    exact ⟨hp, hr, hc⟩

/-- A label is refused as no label of the sheet, or for numbers that are too long. -/
theorem name_of_locate {f : Fault} (h : g.locate label = .error f) :
    f.name ∈ [("CellLabelError" : Text), "ValueError"] := by
  rcases locate_eq_error h with hp | hout
  · rcases Label.position_eq_error hp with ⟨-, rfl⟩ | ⟨_, _, -, -, rfl⟩ <;> simp [Fault.name]
  · rw [hout, outside]
    split <;> simp [Fault.name]

end Grid

/-- What a cell is to hold is refused for its type, or as a number. -/
theorem Cell.name_of_ofValues {formula value error : Value} {f : Fault}
    (h : ofValues formula value error = .error f) :
    f.name ∈ [("TypeError" : Text), "ValueError", "OverflowError"] := by
  have helements {f : Fault} (hf : formula.elements = .error f) : f.name = "TypeError" := by
    unfold Value.elements at hf
    split at hf <;> cases hf
    rfl
  have hread (quoted : Text) (x : Option Float) {f : Fault}
      (hf : Value.readFloat quoted x = .error f) : f.name = "ValueError" := by
    unfold Value.readFloat at hf
    split at hf <;> cases hf
    rfl
  have hfloat {f : Fault} (hf : value.toFloat = .error f) :
      f.name ∈ [("TypeError" : Text), "ValueError", "OverflowError"] := by
    unfold Value.toFloat at hf
    split at hf
    · cases hf
    · dsimp only at hf
      split at hf <;> cases hf
      decide
    · cases hf
    · simp [hread _ _ hf]
    · simp [hread _ _ hf]
    · cases hf
      simp [Fault.name]
  unfold ofValues at h
  cases ht : formula.elements with
  | error f' =>
    rw [ht] at h
    cases h
    simp [helements ht]
  | ok tokens =>
    rw [ht] at h
    cases hx : value.toFloat with
    | error f' =>
      rw [hx] at h
      cases h
      exact hfloat hx
    | ok x =>
      rw [hx] at h
      cases h

namespace Sheet

variable {s t : Sheet} {g : Grid} {label : Text}

/-! ## Labels of a sheet -/

theorem holds_of_mem_names (h : label ∈ s.cells.names) : s.grid.Holds label :=
  Grid.admits_iff_holds.1 (s.admitted label h)

theorem labels_perm (s : Sheet) : s.labels.Perm s.cells.names :=
  List.mergeSort_perm _ _

theorem nodup_labels (s : Sheet) : s.labels.Nodup :=
  s.labels_perm.nodup_iff.2 s.nodup

theorem length_labels (s : Sheet) : s.labels.length = s.size := by
  rw [s.labels_perm.length_eq, Register.names, List.length_map, size]

/-- The position that a label names; the first one if it names none. -/
def place (label : Text) : Position :=
  (Label.position label).toOption.getD ⟨0, 0⟩

theorem place_of_position {p : Position} (h : Label.position label = .ok p) : place label = p := by
  rw [place, h]
  rfl

/-- Labels that name positions are compared by them. -/
theorem precedes_eq {other : Text} {p q : Position} (hp : Label.position label = .ok p)
    (hq : Label.position other = .ok q) :
    precedes label other = decide ((place label).NotAfter (place other)) := by
  rw [place_of_position hp, place_of_position hq, Bool.eq_iff_iff, decide_eq_true_iff]
  simp [precedes, hp, hq, Position.NotAfter]

/-- **The labels of a sheet** name positions that come row by row. -/
theorem labels_rowByRow (s : Sheet) : s.labels.Pairwise fun a b =>
    ∃ p q, Label.position a = .ok p ∧ Label.position b = .ok q ∧ p.NotAfter q := by
  have hall : ∀ a ∈ s.labels, ∃ p, Label.position a = .ok p := fun a ha => by
    obtain ⟨p, hp, -⟩ := holds_of_mem_names (s.labels_perm.mem_iff.1 ha)
    exact ⟨p, hp⟩
  -- on the stored labels the order is that of the positions, which is total and transitive
  have hmap : s.labels.map place =
      (s.cells.names.map place).mergeSort fun p q => decide (p.NotAfter q) := by
    refine List.map_mergeSort fun a ha b hb => ?_
    obtain ⟨p, hp, -⟩ := holds_of_mem_names ha
    obtain ⟨q, hq, -⟩ := holds_of_mem_names hb
    exact precedes_eq hp hq
  have hsorted : (s.labels.map place).Pairwise Position.NotAfter := by
    rw [hmap]
    refine (List.pairwise_mergeSort ?_ ?_ _).imp of_decide_eq_true
    · intro p q r h h'
      exact decide_eq_true
        (Position.notAfter_trans (of_decide_eq_true h) (of_decide_eq_true h'))
    · intro p q
      rw [Bool.or_eq_true, decide_eq_true_eq, decide_eq_true_eq]
      exact Position.notAfter_total p q
  rw [List.pairwise_map] at hsorted
  refine hsorted.imp_of_mem fun ha hb h => ?_
  obtain ⟨p, hp⟩ := hall _ ha
  obtain ⟨q, hq⟩ := hall _ hb
  rw [place_of_position hp, place_of_position hq] at h
  exact ⟨p, q, hp, hq, h⟩

/-- The stored cells with their labels, row by row. -/
def listing (s : Sheet) : Register Cell :=
  s.labels.filterMap fun label => (s.cells.find? label).map fun cell => (label, cell)

theorem names_listing (s : Sheet) : s.listing.names = s.labels := by
  have hall : ∀ labels : List Text, (∀ label ∈ labels, label ∈ s.cells.names) →
      (labels.filterMap fun label => (s.cells.find? label).map fun cell => (label, cell)).map
        (·.1) = labels := by
    intro labels h
    induction labels with
    | nil => rfl
    | cons label labels ih =>
      obtain ⟨cell, hf⟩ := Register.exists_of_mem_names (h label List.mem_cons_self)
      rw [List.filterMap_cons, hf, Option.map_some, List.map_cons,
        ih fun other ho => h other (List.mem_cons_of_mem label ho)]
  exact hall s.labels fun label h => s.labels_perm.mem_iff.1 h

theorem mem_listing {label : Text} {cell : Cell} :
    (label, cell) ∈ s.listing ↔ s.cells.find? label = some cell := by
  rw [listing, List.mem_filterMap]
  constructor
  · rintro ⟨other, -, h⟩
    obtain ⟨cell', hf, he⟩ := Option.map_eq_some_iff.1 h
    cases he
    exact hf
  · intro h
    refine ⟨label, s.labels_perm.mem_iff.2 (Register.mem_names_of_find? h), ?_⟩
    rw [h, Option.map_some]

theorem find?_listing (s : Sheet) (label : Text) :
    s.listing.find? label = s.cells.find? label := by
  have hd : s.listing.names.Nodup := by
    rw [names_listing]
    exact s.nodup_labels
  refine Option.ext fun cell => ?_
  rw [Register.find?_eq_some_iff hd, mem_listing]

/-- The labels of a sheet are in the order in which they would be listed. -/
theorem mergeSort_labels (s : Sheet) : s.labels.mergeSort precedes = s.labels := by
  refine List.mergeSort_of_pairwise (s.labels_rowByRow.imp ?_)
  rintro a b ⟨p, q, hp, hq, h⟩
  rw [precedes_eq hp hq, place_of_position hp, place_of_position hq]
  exact decide_eq_true h

/-! ## Calls -/

/-- A call on a sheet. -/
inductive Call where
  /-- to store a cell made of a formula, a value and an error -/
  | set (label : Text) (formula value error : Value)
  /-- to read a cell -/
  | get (label : Text)
  /-- to ask whether a cell is stored -/
  | contains (label : Text)
  /-- to list the labels of the stored cells -/
  | labels
  /-- to count the stored cells -/
  | size

/-- The sheet after a call. A call that fails leaves it as it was, and so does one that reads. -/
def after (s : Sheet) : Call → Sheet
  | .set label formula value error =>
    ((s.set label formula value error).toOption.map Prod.snd).getD s
  | .get _ | .contains _ | .labels | .size => s

/-- The sheet after calls, one after the other. -/
def run (s : Sheet) (calls : List Call) : Sheet :=
  calls.foldl after s

/-- The cell that a call has stored, with its label, if it has stored one. -/
def deposit? (s : Sheet) : Call → Option (Text × Cell)
  | .set label formula value error =>
    (s.set label formula value error).toOption.map fun stored => (label, stored.1)
  | .get _ | .contains _ | .labels | .size => none

/-- The cells that calls have stored one after the other, with their labels, the last one first. -/
def deposits (s : Sheet) : List Call → List (Text × Cell)
  | [] => []
  | call :: calls => (s.after call).deposits calls ++ (s.deposit? call).toList

section Storing

variable {formula value error : Value} {cell : Cell} {f : Fault}

theorem deposit?_of_set_ok (h : s.set label formula value error = .ok (cell, t)) :
    s.deposit? (.set label formula value error) = some (label, cell) := by
  rw [deposit?, h]
  rfl

theorem after_of_set_ok (h : s.set label formula value error = .ok (cell, t)) :
    s.after (.set label formula value error) = t := by
  rw [after, h]
  rfl

theorem deposit?_of_set_error (h : s.set label formula value error = .error f) :
    s.deposit? (.set label formula value error) = none := by
  rw [deposit?, h]
  rfl

theorem after_of_set_error (h : s.set label formula value error = .error f) :
    s.after (.set label formula value error) = s := by
  rw [after, h]
  rfl

end Storing

/-- **What a call does**: it stores nothing and leaves the sheet as it was, or it puts a cell under
its label. -/
theorem deposit?_cases (s : Sheet) (call : Call) :
    (s.deposit? call = none ∧ s.after call = s) ∨
      ∃ label cell ha, s.deposit? call = some (label, cell) ∧
      s.after call = s.put label cell ha := by
  cases call with
  | set label formula value error =>
    cases hs : s.set label formula value error with
    | error f => exact .inl ⟨deposit?_of_set_error hs, after_of_set_error hs⟩
    | ok stored =>
      obtain ⟨cell, t⟩ := stored
      obtain ⟨-, ha, rfl⟩ := set_eq_ok_iff.1 hs
      exact .inr ⟨label, cell, ha, deposit?_of_set_ok hs, after_of_set_ok hs⟩
  | get _ | contains _ | labels | size => exact .inl ⟨rfl, rfl⟩

theorem grid_after (s : Sheet) (call : Call) : (s.after call).grid = s.grid := by
  obtain ⟨-, h⟩ | ⟨label, cell, ha, -, h⟩ := s.deposit?_cases call
  · rw [h]
  · rw [h]
    rfl

/-- **One call** leaves under a label what it has stored there, or else what was there before. -/
theorem cells_after (s : Sheet) (call : Call) (label : Text) :
    (s.after call).cells.find? label =
      (Register.find? label (s.deposit? call).toList).or (s.cells.find? label) := by
  obtain ⟨hd, h⟩ | ⟨other, cell, ha, hd, h⟩ := s.deposit?_cases call
  · rw [hd, h]
    rfl
  · rw [hd, h, find?_put, Option.toList_some, Register.find?]
    by_cases he : label = other
    · rw [if_pos he, if_pos he.symm, Option.some_or]
    · rw [if_neg he, if_neg (Ne.symm he)]
      rfl

/-- **Many calls** leave under a label what the last of them has stored there that has stored
something there, or else what was there before. -/
theorem cells_run (s : Sheet) (calls : List Call) (label : Text) :
    (s.run calls).cells.find? label =
      (Register.find? label (s.deposits calls)).or (s.cells.find? label) := by
  induction calls generalizing s with
  | nil => rfl
  | cons call calls ih =>
    have hrun : s.run (call :: calls) = (s.after call).run calls := rfl
    rw [hrun, ih, cells_after, deposits, Register.find?_append, Option.or_assoc]

theorem grid_run (s : Sheet) (calls : List Call) : (s.run calls).grid = s.grid := by
  induction calls generalizing s with
  | nil => rfl
  | cons call calls ih => exact (ih (s.after call)).trans (s.grid_after call)

/-! ## Maps -/

/-- The sheet is the map that holds the given cells, bounded by the grid. -/
structure IsBoundedMap (s : Sheet) (g : Grid) (held : Text → Option Cell) : Prop where
  /-- the grid is that of the sheet -/
  grid : s.grid = g
  /-- the stored labels name positions inside the grid -/
  inside : ∀ label, s.contains label = true → g.Holds label
  /-- labels of positions inside the grid are answered for, and no others -/
  answers : ∀ label, (∃ cell, s.get label = .ok cell) ↔ g.Holds label
  /-- a cell that is held is read -/
  get_held : ∀ label cell, held label = some cell → s.get label = .ok cell
  /-- where none is held, an empty cell is read -/
  get_empty : ∀ label, held label = none → g.Holds label → s.get label = .ok Cell.empty
  /-- the stored labels are those that hold a cell -/
  contains_iff : ∀ label, s.contains label = true ↔ ∃ cell, held label = some cell
  /-- the labels that are listed are those that hold a cell -/
  mem_labels : ∀ label, label ∈ s.labels ↔ ∃ cell, held label = some cell
  /-- no label is listed twice -/
  nodup_labels : s.labels.Nodup
  /-- the number of cells is that of the labels -/
  size : s.size = s.labels.length
  /-- the labels are listed row by row -/
  rowByRow : s.labels.Pairwise fun a b =>
    ∃ p q, Label.position a = .ok p ∧ Label.position b = .ok q ∧ p.NotAfter q

/-- Every sheet is the map of what is stored in it. -/
theorem isBoundedMap (s : Sheet) : s.IsBoundedMap s.grid fun label => s.cells.find? label := by
  have hmem (label : Text) : label ∈ s.cells.names ↔ ∃ cell, s.cells.find? label = some cell :=
    ⟨Register.exists_of_mem_names, fun ⟨_, h⟩ => Register.mem_names_of_find? h⟩
  have hin {label : Text} {cell : Cell} (hf : s.cells.find? label = some cell) :
      s.grid.Holds label :=
    holds_of_mem_names ((hmem label).2 ⟨cell, hf⟩)
  constructor
  case grid => rfl
  case inside =>
    intro label h
    obtain ⟨cell, hf⟩ := Option.isSome_iff_exists.1 h
    exact hin hf
  case answers =>
    intro label
    rw [get]
    cases hf : s.cells.find? label with
    -- a stored cell is answered without a look at the label, which was looked at before
    | some cell => exact ⟨fun _ => hin hf, fun _ => ⟨cell, rfl⟩⟩
    | none =>
      rw [← Grid.admits_iff_holds]
      constructor
      · rintro ⟨cell, h⟩
        obtain ⟨p, hp, -⟩ := map_eq_ok_iff.1 h
        exact ⟨p, hp⟩
      · rintro ⟨p, hp⟩
        exact ⟨Cell.empty, map_eq_ok_iff.2 ⟨p, hp, rfl⟩⟩
  case get_held =>
    intro label cell h
    rw [get]
    simp only [h]
  case get_empty =>
    intro label h hh
    obtain ⟨p, hp⟩ := Grid.admits_iff_holds.2 hh
    rw [get]
    simp only [h]
    exact map_eq_ok_iff.2 ⟨p, hp, rfl⟩
  case contains_iff =>
    intro label
    rw [contains, Option.isSome_iff_exists]
  case mem_labels =>
    intro label
    rw [s.labels_perm.mem_iff, hmem]
  case nodup_labels => exact s.nodup_labels
  case size => exact s.length_labels.symm
  case rowByRow => exact s.labels_rowByRow

/-- **After any calls** a sheet that was empty is the map of the cells that they have stored, under
each label the last one. From there on, a call that fails fails for its label or for what it is to
store, and nothing has changed; nor does a call that reads change anything; and a call that stores
changes what is under its label and nothing else. -/
theorem isBoundedMap_run (g : Grid) (calls : List Call) :
    let s := (blank g).run calls
    s.IsBoundedMap g (fun label => Register.find? label ((blank g).deposits calls)) ∧
    (∀ call, s.deposit? call = none → s.after call = s) ∧
    (∀ label formula value error f, s.set label formula value error = .error f →
      s.deposit? (.set label formula value error) = none ∧
      f.name ∈ [("CellLabelError" : Text), "TypeError", "ValueError", "OverflowError"]) ∧
    (∀ label formula value error cell t, s.set label formula value error = .ok (cell, t) →
      s.deposit? (.set label formula value error) = some (label, cell) ∧
      s.after (.set label formula value error) = t ∧
      Cell.ofValues formula value error = .ok cell ∧ g.Holds label ∧ t.get label = .ok cell ∧
      ∀ other, other ≠ label → t.get other = s.get other ∧
      t.contains other = s.contains other) := by
  intro s
  refine ⟨?_, fun call hd => ?_, ?_, ?_⟩
  · have hm := s.isBoundedMap
    have hcells : (fun label => s.cells.find? label) =
        fun label => Register.find? label ((blank g).deposits calls) := by
      funext label
      exact (cells_run (blank g) calls label).trans (Option.or_none)
    have hgrid : s.grid = g := grid_run (blank g) calls
    rw [hcells, hgrid] at hm
    exact hm
  · obtain ⟨-, h⟩ | ⟨label, cell, -, hd', -⟩ := s.deposit?_cases call
    · exact h
    · rw [hd] at hd'
      cases hd'
  · intro label formula value error f h
    refine ⟨deposit?_of_set_error h, ?_⟩
    rcases set_eq_error h with hl | hc
    · have hn := Grid.name_of_locate hl
      simp only [List.mem_cons, List.not_mem_nil, or_false] at hn ⊢
      tauto
    · have hn := Cell.name_of_ofValues hc
      simp only [List.mem_cons, List.not_mem_nil, or_false] at hn ⊢
      tauto
  · intro label formula value error cell t h
    have hgrid : s.grid = g := grid_run (blank g) calls
    obtain ⟨hc, ha, rfl⟩ := set_eq_ok_iff.1 h
    refine ⟨deposit?_of_set_ok h, after_of_set_ok h, hc, ?_, get_put_self s label cell ha, ?_⟩
    · exact hgrid ▸ Grid.admits_iff_holds.1 ha
    · intro other ho
      refine ⟨get_put_of_ne s cell ha ho, ?_⟩
      rw [contains, contains, find?_put, if_neg ho]

end Sheet

end FormulaSheet
