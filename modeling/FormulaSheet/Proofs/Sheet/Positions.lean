import FormulaSheet.Proofs.Sheet.Calls
import Mathlib.Data.Finset.Prod
import Mathlib.Data.Int.Interval
import Mathlib.Data.List.Nodup

/-!
# Cells and positions

A sheet keeps cells under labels, and a label names a position of the grid. As a label may end in a
line feed, a position has two labels, and a sheet may hold a cell under either of them. This is the
only way in which a position can have more than one cell: where no stored label ends in a line feed
the stored labels are those of different positions, and there are no more cells than positions.

* `ofPosition_eq_iff`: the label of a position is the one without a line feed;
* `length_le_of_positions`: there are no more labels of different positions than positions;
* `positions_of_labels`: the labels of a sheet and their positions;
* `exists_two_labels_of_one_position`: a sheet of one position may hold two cells.
-/

namespace FormulaSheet

/-- The label ends in a line feed. -/
def Label.EndsInLineFeed (label : Text) : Prop :=
  label.toList.getLast? = some (.char '\n')

/-- The first position comes before the second, row by row. -/
def Position.Before (p q : Position) : Prop :=
  p.row < q.row ∨ p.row = q.row ∧ p.column < q.column

theorem Position.before_of_notAfter {p q : Position} (h : p.NotAfter q) (hn : p ≠ q) :
    p.Before q := by
  rcases h with h | ⟨hr, hc⟩
  · exact .inl h
  · refine .inr ⟨hr, ?_⟩
    have hne : p.column ≠ q.column := fun he => hn (by cases p; cases q; simp_all)
    omega

namespace Label

variable {label other : Text}

theorem dropFinalLineFeed_of_not (h : ¬ EndsInLineFeed label) :
    dropFinalLineFeed label.toList = label.toList :=
  if_neg h

/-- **The label of a position** is the one that does not end in a line feed. -/
theorem ofPosition_eq_iff {p : Position} (h : position label = .ok p) :
    ofPosition p = .ok label ↔ ¬ EndsInLineFeed label := by
  rw [ofPosition_of_position h, Except.ok.injEq]
  constructor
  · intro he hl
    have hlist : dropFinalLineFeed label.toList = label.toList := by
      rw [← Text.toList_ofList (s := dropFinalLineFeed label.toList), he]
    obtain ⟨init, hinit⟩ := List.getLast?_eq_some_iff.1 hl
    have hlast : label.toList.getLast? = some (.char '\n') := hl
    rw [dropFinalLineFeed, if_pos hlast, hinit, List.dropLast_concat] at hlist
    exact List.cons_ne_nil (Point.char '\n') [] (List.self_eq_append_right.1 hlist)
  · intro hl
    rw [dropFinalLineFeed_of_not hl, Text.ofList_toList]

/-- Labels of one position are the same if neither ends in a line feed. -/
theorem eq_of_position {p : Position} (hl : ¬ EndsInLineFeed label) (ho : ¬ EndsInLineFeed other)
    (hp : position label = .ok p) (hq : position other = .ok p) : label = other := by
  have h := dropFinalLineFeed_eq_of_position hp hq
  rw [dropFinalLineFeed_of_not hl, dropFinalLineFeed_of_not ho] at h
  exact Text.toList_inj.1 h

end Label

namespace Grid

variable {g : Grid}

/-- The labels name different positions. -/
def Separates (labels : List Text) : Prop :=
  ∀ a ∈ labels, ∀ b ∈ labels, ∀ p, Label.position a = .ok p → Label.position b = .ok p → a = b

/-- **There are no more labels** of different positions inside the grid than positions. -/
theorem length_le_of_positions {labels : List Text} (hd : labels.Nodup)
    (hh : ∀ label ∈ labels, g.Holds label) (hs : Separates labels) :
    (labels.length : Int) ≤ g.columns * g.rows := by
  -- the pairs of row and column of the labels are different, and all of them are in the grid
  let pair (label : Text) : Int × Int := ((Sheet.place label).row, (Sheet.place label).column)
  have hinj : ∀ a ∈ labels, ∀ b ∈ labels, pair a = pair b → a = b := by
    intro a ha b hb he
    obtain ⟨p, hp, -⟩ := hh a ha
    obtain ⟨q, hq, -⟩ := hh b hb
    simp only [pair, Sheet.place_of_position hp, Sheet.place_of_position hq, Prod.mk.injEq] at he
    have hpq : p = q := by
      cases p
      cases q
      simp_all
    exact hs a ha b hb p hp (hpq ▸ hq)
  have hnodup : (labels.map pair).Nodup := hd.map_on hinj
  have hsub : (labels.map pair).toFinset ⊆ Finset.Ico 0 g.rows ×ˢ Finset.Ico 0 g.columns := by
    intro x hx
    obtain ⟨label, hl, rfl⟩ := List.mem_map.1 (List.mem_toFinset.1 hx)
    obtain ⟨p, hp, hrow, hcolumn⟩ := hh label hl
    simp only [pair, Sheet.place_of_position hp, Finset.mem_product, Finset.mem_Ico]
    exact ⟨hrow, hcolumn⟩
  have hcard := Finset.card_le_card hsub
  rw [List.toFinset_card_of_nodup hnodup, List.length_map, Finset.card_product, Int.card_Ico,
    Int.card_Ico, sub_zero, sub_zero] at hcard
  have hrows := g.rows_pos
  have hcolumns := g.columns_pos
  calc (labels.length : Int) ≤ (g.rows.toNat * g.columns.toNat : Nat) := by exact_mod_cast hcard
    _ = g.rows * g.columns := by
      rw [Nat.cast_mul, Int.toNat_of_nonneg (by omega), Int.toNat_of_nonneg (by omega)]
    _ = g.columns * g.rows := mul_comm _ _

end Grid

namespace Sheet

/-- The labels of a sheet that name different positions come strictly row by row. -/
theorem labels_strictly {s : Sheet} (hs : Grid.Separates s.labels) :
    s.labels.Pairwise fun a b =>
      ∃ p q, Label.position a = .ok p ∧ Label.position b = .ok q ∧ p.Before q := by
  refine (s.labels_rowByRow.and s.nodup_labels).imp_of_mem fun ha hb h => ?_
  obtain ⟨⟨p, q, hp, hq, hpq⟩, hne⟩ := h
  refine ⟨p, q, hp, hq, Position.before_of_notAfter hpq ?_⟩
  rintro rfl
  exact hne (hs _ ha _ hb p hp hq)

/-- **Stored labels and positions.** Every stored label names a position, and is the label of this
position exactly if it does not end in a line feed; two stored labels of one position differ in the
line feed at most. So if no stored label ends in a line feed then there is one cell at most for each
position: different labels name different positions, the labels are listed strictly row by row, and
there are no more cells than positions. -/
theorem positions_of_labels (s : Sheet) :
    (∀ label, s.contains label = true → ∃ p, Label.position label = .ok p ∧
      (Label.ofPosition p = .ok label ↔ ¬ Label.EndsInLineFeed label)) ∧
    (∀ a b p, s.contains a = true → s.contains b = true → Label.position a = .ok p →
      Label.position b = .ok p →
      Label.dropFinalLineFeed a.toList = Label.dropFinalLineFeed b.toList) ∧
    ((∀ label, s.contains label = true → ¬ Label.EndsInLineFeed label) →
      (∀ a b p, s.contains a = true → s.contains b = true → Label.position a = .ok p →
        Label.position b = .ok p → a = b) ∧
      (s.labels.Pairwise fun a b =>
        ∃ p q, Label.position a = .ok p ∧ Label.position b = .ok q ∧ p.Before q) ∧
      (s.size : Int) ≤ s.grid.columns * s.grid.rows) := by
  have hm := s.isBoundedMap
  refine ⟨?_, fun a b p _ _ => Label.dropFinalLineFeed_eq_of_position, ?_⟩
  · intro label h
    obtain ⟨p, hp, -⟩ := hm.inside label h
    exact ⟨p, hp, Label.ofPosition_eq_iff hp⟩
  · intro hn
    have hlabels : ∀ label ∈ s.labels, s.contains label = true := fun label h =>
      (hm.contains_iff label).2 ((hm.mem_labels label).1 h)
    have hs : Grid.Separates s.labels := fun a ha b hb p =>
      Label.eq_of_position (hn a (hlabels a ha)) (hn b (hlabels b hb))
    refine ⟨fun a b p ha hb => Label.eq_of_position (hn a ha) (hn b hb), labels_strictly hs, ?_⟩
    rw [hm.size]
    exact Grid.length_le_of_positions hm.nodup_labels
      (fun label h => hm.inside label (hlabels label h)) hs

/-- A sheet of one position. -/
def single : Sheet :=
  blank ⟨1, 1, by decide, by decide⟩

/-- **A position may have two cells**: a sheet of one position holds a cell under its label and
another one under this label with a line feed. -/
theorem exists_two_labels_of_one_position :
    let s := single.run [.set "A1" (.list [.str "1"]) (.float 1) .null,
      .set "A1\n" (.list [.str "2"]) (.float 2) .null]
    s.contains "A1" = true ∧ s.contains "A1\n" = true ∧
      Label.position "A1" = Label.position "A1\n" ∧
      (∀ p, Label.position "A1\n" = .ok p → Label.ofPosition p ≠ .ok "A1\n") ∧
      s.grid.columns * s.grid.rows < s.size := by
  refine ⟨rfl, rfl, rfl, fun p hp he => ?_, by decide⟩
  exact (Label.ofPosition_eq_iff hp).1 he rfl

end Sheet

end FormulaSheet
