import FormulaSheet.Formula.Failure
import FormulaSheet.Label
import FormulaSheet.Register
import FormulaSheet.Sheet

/-!
# Where references lead

A formula refers to cells by their labels. What it refers to is looked up in a source: a register
of the contents that are stored, and for every other label either an empty cell or a refusal. Sheets
are sources; so is a plain table, which refuses every label that it does not hold.

What counts as a label is up to the evaluation: texts of the form of a label, the members of a list,
or whatever a predicate says.

* `lookup_eq_blank`: a label that is not stored is empty or refused, so it leads nowhere else.
-/

namespace FormulaSheet

/-- What a formula sees of a cell that it refers to. -/
structure Content where
  /-- the formula of the cell -/
  formula : Value
  /-- the value kept for it -/
  value : Value
  /-- the error kept for it -/
  error : Value

namespace Content

/-- The content of an empty cell. -/
def blank : Content :=
  ⟨.list [], .float 0.0, .str Failure.emptyCode⟩

/-- The number of tokens of the formula. -/
def tokenCount (c : Content) : Nat :=
  match c.formula.elements with
  | .ok tokens => tokens.length
  | .error _ => 0

/-- Whether an error that is kept for a cell stands for none: the empty text, or the error of the
empty formula. -/
def isClear : Value → Bool
  | .str s => s == "" || s == Failure.emptyCode
  | _ => false

/-- What a reference to the cell yields: its value, or a failure. A kept error makes the reference
fail, unless it is a value that counts as false; a cell without a formula makes it fail as well. -/
def reading (c : Content) : Except Fault (Float × Option Failure) :=
  if !isClear c.error then
    .ok (0.0, if c.error.isTrue then some (.stored c.error) else none)
  else
    match c.formula.elements with
    | .error f => .error f
    | .ok [] => .ok (0.0, some .reference)
    | .ok (_ :: _) => c.value.toFloat.map fun x => (x, none)

end Content

/-- What a cell of a sheet shows to a formula that refers to it. -/
def Cell.content (c : Cell) : Content :=
  ⟨.list c.formula, .float c.value, c.error⟩

/-- Contents under labels. -/
structure Source where
  /-- the contents that are stored -/
  stored : Register Content
  /-- whether a label where nothing is stored is that of an empty cell; if not, why -/
  absent : Text → Except Fault Unit
  /-- how many calls are open at most while a label is looked up -/
  frames : Text → Nat

namespace Source

/-- The content at a label. -/
def lookup (s : Source) (label : Text) : Except Fault Content :=
  match s.stored.find? label with
  | some c => .ok c
  | none => (s.absent label).map fun _ => Content.blank

/-- A table of contents, which refuses all other labels. -/
def table (stored : Register Content) : Source :=
  ⟨stored, fun label => .error (.label ⟨label, ""⟩), fun _ => 1⟩

theorem lookup_eq_blank {s : Source} {label : Text} {c : Content}
    (hs : s.stored.find? label = none) (h : s.lookup label = .ok c) : c = Content.blank := by
  rw [lookup, hs] at h
  cases ha : s.absent label <;> rw [ha] at h <;> cases h
  rfl

end Source

/-- How many calls are open at most while a sheet looks up a label. Where no cell is stored, the
position of the label is worked out, with its column in a call of its own. -/
def Sheet.framesAt (s : Sheet) (label : Text) : Nat :=
  if (s.cells.find? label).isSome then 1 else 4

theorem Sheet.framesAt_le (s : Sheet) (label : Text) : s.framesAt label ≤ 4 := by
  rw [framesAt]
  split <;> decide

/-- The contents of a sheet. -/
def Sheet.source (s : Sheet) : Source where
  stored := s.cells.map fun e => (e.1, e.2.content)
  absent label := (s.grid.locate label).map fun _ => ()
  frames := s.framesAt

/-- The texts that count as labels. -/
inductive LabelClass where
  /-- the texts of the form of a label -/
  | pattern
  /-- the members of a list -/
  | members (labels : List Text)
  /-- the texts of which a predicate is true -/
  | satisfying (predicate : Text → Bool)

namespace LabelClass

/-- Whether a text counts as a label. -/
def holds : LabelClass → Text → Bool
  | pattern, text => Label.isLabel text
  | members labels, text => labels.contains text
  | satisfying predicate, text => predicate text

/-- The token as a label, if it counts as one. The form of a label can only be asked of a text. -/
def label? (c : LabelClass) : Value → Except Fault (Option Text)
  | .str text => .ok (if c.holds text then some text else none)
  | v =>
    match c with
    | pattern => .error (.wrongType (.text v.typeName))
    | members _ | satisfying _ => .ok none

end LabelClass

end FormulaSheet
