import FormulaSheet.Fault

/-!
# Evaluation with a record

An evaluation looks up cells and finds circular references on its way. It changes nothing, so what
it did is part of its result: `Traced` is a result together with the record of what was done up to
it. The record is kept also when the evaluation is given up.

* `bind_ok`, `bind_error`: an evaluation in two parts joins the records of both, unless the first
  part was given up.
-/

namespace FormulaSheet

/-- Something that an evaluation did. -/
inductive Note where
  /-- it looked up a label -/
  | lookup (label : Text)
  /-- it found that a label leads back to the origin -/
  | circular (origin label : Text)
  deriving DecidableEq, Repr

/-- What there was no room for. -/
inductive Cut where
  /-- one more expression, or a lookup beneath it -/
  | reading
  /-- telling of a circular reference -/
  | telling
  deriving DecidableEq, Repr

/-- Why an evaluation was given up. -/
inductive Halt where
  /-- it was cut for want of room -/
  | cut (c : Cut)
  /-- something failed -/
  | fault (f : Fault)

/-- A result with the record of what was done for it. -/
structure Traced (α : Type) where
  /-- what was done, in order -/
  notes : List Note
  /-- the result, or why there is none -/
  result : Except Halt α

namespace Traced

variable {α β : Type}

/-- A result for which nothing was done. -/
protected def pure (a : α) : Traced α :=
  ⟨[], .ok a⟩

/-- Goes on with the result, if there is one. -/
protected def bind (t : Traced α) (f : α → Traced β) : Traced β :=
  match t.result with
  | .ok a => ⟨t.notes ++ (f a).notes, (f a).result⟩
  | .error h => ⟨t.notes, .error h⟩

instance : Monad Traced where
  pure := Traced.pure
  bind := Traced.bind

/-- Gives up. -/
def halt (h : Halt) : Traced α :=
  ⟨[], .error h⟩

/-- Records something in front of what is done. -/
def noting (n : Note) (t : Traced α) : Traced α :=
  ⟨n :: t.notes, t.result⟩

/-- Does what there is room for: what does not fit is not done any more, nor what comes behind
it. -/
def within (fits : Note → Bool) (t : Traced α) : Traced α :=
  if t.notes.all fits then t else ⟨t.notes.takeWhile fits, .error (.cut .reading)⟩

/-- The evaluation was cut. -/
def IsCut (t : Traced α) : Prop :=
  ∃ c, t.result = .error (.cut c)

/-- A result that may have failed, for which nothing was done. -/
def ofExcept : Except Fault α → Traced α
  | .ok a => ⟨[], .ok a⟩
  | .error f => ⟨[], .error (.fault f)⟩

@[simp]
theorem pure_eq (a : α) : (pure a : Traced α) = ⟨[], .ok a⟩ :=
  rfl

theorem bind_ok (notes : List Note) (a : α) (f : α → Traced β) :
    ((⟨notes, .ok a⟩ : Traced α) >>= f) = ⟨notes ++ (f a).notes, (f a).result⟩ :=
  rfl

theorem bind_error (notes : List Note) (h : Halt) (f : α → Traced β) :
    ((⟨notes, .error h⟩ : Traced α) >>= f) = ⟨notes, .error h⟩ :=
  rfl

end Traced

end FormulaSheet
