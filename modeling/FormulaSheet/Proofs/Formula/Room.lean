import FormulaSheet.Formula.Evaluator
import FormulaSheet.Proofs.Formula.Parallel

/-!
# Evaluations on a stack with a bound

An evaluation on a stack goes the way of the one with room for every call (`Setting.expression`) up
to where it is cut, if it is: `Traced.CutFrom` says this of results with their records. So what is
true of evaluations with room for every call is true of those that are not cut, and whatever an
evaluation did before it was cut is what they do at first.

It is not cut if there is room for the nesting of its parentheses and, beneath the innermost of
them, for what a reference calls (`Setting.HasRoom`).

* `Setting.run_cutFrom`: evaluations on a stack go the way of those without a bound;
* `Setting.run_eq_of_not_isCut`: they are the same if they are not cut;
* `Setting.run_eq_of_room`: with room for some levels of nesting they are the same if these levels
  are enough;
* `Sheet.hasRoom_of_le`, `Sheet.hasRoom_of_standard`: where there is room for references to cells
  of a sheet, and where on the standard stack.
-/

namespace FormulaSheet

namespace Traced

variable {α β : Type} {fits : Note → Bool}

/-! ## What fits -/

theorem within_noting (fits : Note → Bool) (n : Note) (t : Traced α) :
    (noting n t).within fits =
      if fits n then noting n (t.within fits) else halt (.cut .reading) := by
  simp only [within, noting, List.all_cons, List.takeWhile_cons]
  cases hn : fits n with
  | false => rfl
  | true =>
    simp only [Bool.true_and, if_true]
    split <;> rfl

theorem within_of_notes_nil {t : Traced α} (h : t.notes = []) : t.within fits = t := by
  rw [within, h]
  rfl

theorem within_of_all {t : Traced α} (h : ∀ n ∈ t.notes, fits n = true) : t.within fits = t :=
  if_pos (List.all_eq_true.2 h)

/-! ## Going the same way up to a cut -/

/-- The first evaluation is the second one, unless it was cut on the way. -/
def CutFrom (t t' : Traced α) : Prop :=
  t = t' ∨ t.IsCut ∧ t.notes <+: t'.notes

theorem CutFrom.eq_of_not_isCut {t t' : Traced α} (h : t.CutFrom t') (hc : ¬ t.IsCut) : t = t' :=
  h.resolve_right fun ⟨hcut, _⟩ => hc hcut

theorem cutFrom_halt (c : Cut) (t : Traced α) : (halt (.cut c)).CutFrom t :=
  .inr ⟨⟨c, rfl⟩, List.nil_prefix⟩

theorem cutFrom_within (t : Traced α) : (t.within fits).CutFrom t := by
  rw [within]
  split
  · exact .inl rfl
  · exact .inr ⟨⟨.reading, rfl⟩, List.takeWhile_prefix _⟩

theorem cutFrom_relates : Relates fun {_} => CutFrom where
  pure _ := .inl rfl
  bind {α β t t' f f'} ht hf := by
    obtain rfl | ⟨⟨c, hr⟩, hp⟩ := ht
    · obtain ⟨notes, result⟩ := t
      cases result with
      | error h => exact .inl rfl
      | ok a =>
        rw [bind_ok, bind_ok]
        obtain h | ⟨⟨c, hr⟩, hp⟩ := hf a rfl
        · rw [h]
          exact .inl rfl
        · exact .inr ⟨⟨c, hr⟩, (List.prefix_append_right_inj _).2 hp⟩
    · -- the first part is cut, so nothing follows it
      obtain ⟨notes, result⟩ := t
      cases hr
      refine .inr ⟨⟨c, rfl⟩, hp.trans ?_⟩
      obtain ⟨notes', result'⟩ := t'
      cases result' with
      | error h => exact List.prefix_rfl
      | ok a => exact List.prefix_append _ _

end Traced

open Traced

namespace Setting

variable {s : Setting}

/-! ## References -/

section

variable (s : Setting) (room : Nat) (label : Text)

/-- What a reference to the label yields where it is not checked. -/
def read : Traced (Float × Option Failure) := do
  match ← s.fetch label with
  | none => pure (0.0, some .reference)
  | some c => Traced.ofExcept c.reading

/-- The check for circular references at the label, as far as there is room. -/
def checkIn : Traced Bool :=
  (s.isCircular label).within (s.fitsWalk room)

theorem reference_eq_read : s.reference label = s.isCircular label >>= fun circular =>
    if circular then
      Traced.noting (.circular (s.guarded.getD "") label) (pure (0.0, some .circular))
    else s.read label :=
  rfl

theorem referenceIn_eq_read : s.referenceIn room label = s.checkIn room label >>= fun circular =>
    if circular then
      if 1 + s.stack.warning ≤ room then
        Traced.noting (.circular (s.guarded.getD "") label) (pure (0.0, some .circular))
      else Traced.halt (.cut .telling)
    else if 1 + s.source.frames label ≤ room then s.read label
    else Traced.halt (.cut .reading) :=
  rfl

end

/-- **A reference on a stack** goes the way of one without a bound, up to where it is cut. -/
theorem referenceIn_cutFrom (s : Setting) (room : Nat) (label : Text) :
    (s.referenceIn room label).CutFrom (s.reference label) := by
  refine cutFrom_relates.bind (cutFrom_within _) fun circular _ => ?_
  cases circular with
  | true =>
    simp only [if_true]
    split
    · exact .inl rfl
    · exact cutFrom_halt _ _
  | false =>
    simp only [Bool.false_eq_true, if_false]
    split
    · exact .inl rfl
    · exact cutFrom_halt _ _

/-- There is room for everything that a reference calls beneath a factor, where so many expressions
may still be nested in its own. -/
structure HasRoom (s : Setting) (depth : Nat) : Prop where
  lookup : ∀ label, 2 + max (s.source.frames label) s.stack.look ≤ s.stack.room depth
  warning : 1 + s.stack.warning ≤ s.stack.room depth

theorem HasRoom.mono {depth depth' : Nat} (h : s.HasRoom depth) (hd : depth ≤ depth') :
    s.HasRoom depth' where
  lookup label := Nat.le_trans (h.lookup label) (s.stack.room_mono hd)
  warning := Nat.le_trans h.warning (s.stack.room_mono hd)

theorem HasRoom.referenceIn_eq {depth : Nat} (h : s.HasRoom depth) (label : Text) :
    s.referenceIn (s.stack.room depth) label = s.reference label := by
  have hwalk : (s.isCircular label).within (s.fitsWalk (s.stack.room depth)) =
      s.isCircular label := by
    refine within_of_all fun n _ => ?_
    cases n with
    | lookup other => exact decide_eq_true (h.lookup other)
    | circular _ _ => rfl
  have hlookup : 1 + s.source.frames label ≤ s.stack.room depth := by
    have := h.lookup label
    omega
  simp only [referenceIn, hwalk, if_pos h.warning, if_pos hlookup]
  rfl

/-! ## Evaluations -/

/-- **An evaluation on a stack** goes the way of one without a bound, up to where it is cut. The
latter may as well have room for more nesting. -/
theorem run_cutFrom (s : Setting) (tokens : List Text) (more : Nat) :
    (s.run tokens).CutFrom (s.expression (more + s.stack.levels) tokens none) :=
  expressionOf_related_add cutFrom_relates s.grammarIn (fun _ => s.grammar) more
    (fun _ _ _ => cutFrom_halt _ _)
    (fun _ => ⟨rfl, rfl, fun label _ _ => s.referenceIn_cutFrom _ label⟩) _
    (List.suffix_refl tokens) none

/-- Where there is nothing to read, an operand is missing, if there is room to see that. -/
theorem run_nil (s : Setting) :
    s.run [] = halt (.cut .reading) ∨ s.run [] = pure ⟨0.0, [], some .incomplete⟩ := by
  rw [run, expressionIn]
  cases s.stack.levels with
  | zero => exact .inl rfl
  | succ depth => exact .inr rfl

/-- An evaluation leaves some of the last tokens. -/
theorem run_shrinks {tokens : List Text} {step : Step} (h : (s.run tokens).result = .ok step) :
    step.rest <:+ tokens :=
  expressionOf_shrinks s.grammarIn s.stack.levels h

theorem run_eq_of_not_isCut {tokens : List Text} (h : ¬ (s.run tokens).IsCut) (more : Nat) :
    s.run tokens = s.expression (more + s.stack.levels) tokens none :=
  (s.run_cutFrom tokens more).eq_of_not_isCut h

theorem expression_of_run {tokens : List Text} {step : Step}
    (h : (s.run tokens).result = .ok step) (more : Nat) :
    (s.expression (more + s.stack.levels) tokens none).result = .ok step := by
  rw [← run_eq_of_not_isCut (not_isCut_of_ok h)]
  exact h

/-- What comes of references on a stack comes of them without a bound as well. -/
theorem reference_of_referenceIn {room : Nat} {label : Text} {r : Float × Option Failure}
    (h : (s.referenceIn room label).result = .ok r) : (s.reference label).result = .ok r := by
  rw [← (s.referenceIn_cutFrom room label).eq_of_not_isCut (not_isCut_of_ok h)]
  exact h

/-- **An evaluation is not cut** if it needs no more levels of nesting than there is room for, with
everything that a reference calls beneath them. -/
theorem run_eq_of_room {base depth : Nat} (hb : base + depth = s.stack.levels)
    (hroom : s.HasRoom base) {tokens : List Text}
    (hc : ¬ (s.expression depth tokens none).IsCut) :
    s.run tokens = s.expression depth tokens none := by
  have h := expressionOf_related_add cutFrom_relates (fun _ => s.grammar) s.grammarIn base
    (fun _ _ _ => cutFrom_halt _ _)
    (fun d => ⟨rfl, rfl, fun label _ _ =>
      .inl ((hroom.mono (Nat.le_add_right base d)).referenceIn_eq label).symm⟩)
    depth (List.suffix_refl tokens) none
  rw [hb] at h
  exact (h.eq_of_not_isCut hc).symm

theorem not_isCut_of_room {base depth : Nat} (hb : base + depth = s.stack.levels)
    (hroom : s.HasRoom base) {tokens : List Text}
    (hc : ¬ (s.expression depth tokens none).IsCut) : ¬ (s.run tokens).IsCut := by
  rw [run_eq_of_room hb hroom hc]
  exact hc

end Setting

/-- There is room for all that a reference to a cell of a sheet calls if there is room to look up a
label on the way along references and to tell the event log of something. -/
theorem Sheet.hasRoom_of_le (sheet : Sheet) {o : Options} {depth : Nat}
    (hlookup : 2 + max 4 o.stack.look ≤ o.stack.room depth)
    (hwarning : 1 + o.stack.warning ≤ o.stack.room depth) (origin : Option Text) :
    (Evaluator.setting o sheet.source origin).HasRoom depth where
  lookup label := by
    have hframes : (Evaluator.setting o sheet.source origin).source.frames label ≤ 4 :=
      sheet.framesAt_le label
    have hmax : max ((Evaluator.setting o sheet.source origin).source.frames label) o.stack.look ≤
        max 4 o.stack.look :=
      Nat.max_le.2 ⟨Nat.le_trans hframes (Nat.le_max_left ..), Nat.le_max_right ..⟩
    exact Nat.le_trans (Nat.add_le_add_left hmax 2) hlookup
  warning := hwarning

/-- On the standard stack there is, unless the reference stands beneath the last of the levels. -/
theorem Sheet.hasRoom_of_standard (sheet : Sheet) {o : Options} (ho : o.stack = .standard)
    (origin : Option Text) : (Evaluator.setting o sheet.source origin).HasRoom 1 := by
  refine sheet.hasRoom_of_le ?_ ?_ origin
  · rw [ho]
    decide
  · rw [ho]
    decide

end FormulaSheet
