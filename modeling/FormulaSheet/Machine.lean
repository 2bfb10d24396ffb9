import FormulaSheet.Formula.Stack

/-!
# The machine

How many calls may be open at once is up to what runs the program, and so are the bounds that come
of it: how deep the parentheses of a formula may be nested, and the collections of a document that
is read. Telling the event log of something takes the fewest calls where no log is attached and the
most where the log cannot be written, since then this is reported.

* `Costs.of_le_report`: what it takes at most to tell the event log.
-/

namespace FormulaSheet

/-- What becomes of what the event log is told. -/
inductive LogState where
  /-- no log is attached -/
  | detached
  /-- it is written -/
  | works
  /-- it cannot be written -/
  | fails
  deriving DecidableEq, Repr

/-- How many calls are open at most while the event log is told of something. -/
structure Costs where
  /-- where the event is only made -/
  event : Nat
  /-- where it is written as well -/
  write : Nat
  /-- where it is reported that it was not written -/
  report : Nat
  event_le_write : event ≤ write
  write_le_report : write ≤ report

/-- The calls that it takes, by what becomes of what is told. -/
def Costs.of (c : Costs) : LogState → Nat
  | .detached => c.event
  | .works => c.write
  | .fails => c.report

theorem Costs.of_le_report (c : Costs) (state : LogState) : c.of state ≤ c.report := by
  cases state with
  | detached => exact Nat.le_trans c.event_le_write c.write_le_report
  | works => exact c.write_le_report
  | fails => exact Nat.le_refl _

/-- What runs the program. -/
structure Machine where
  /-- how many calls may be open in an evaluation -/
  frames : Nat
  /-- how many are open at most beneath a factor that looks at its token -/
  look : Nat
  /-- how many it takes to tell the event log -/
  costs : Costs
  /-- from the evaluation itself the event log can be told -/
  tells : costs.report < frames
  /-- the most sequences and objects that may stand one inside another in a JSON text -/
  json : Nat
  /-- the most collections that may stand one inside another in a YAML text -/
  yaml : Nat
  /-- whether answers are shown on a terminal -/
  answers : Bool
  /-- whether complaints are shown on a terminal -/
  complaints : Bool

namespace Machine

/-- The machine where nothing is said about it: there is room for a thousand calls, and an
evaluation is the fourth of them. -/
def standard : Machine where
  frames := 996
  look := 3
  costs := ⟨5, 10, 15, by decide, by decide⟩
  tells := by decide
  json := 985
  yaml := 485
  answers := false
  complaints := false

/-- The stack that the evaluations are called on. -/
def stack (m : Machine) (state : LogState) : Stack :=
  ⟨m.frames, m.look, m.costs.of state, Nat.lt_of_le_of_lt (m.costs.of_le_report state) m.tells⟩

end Machine

end FormulaSheet
