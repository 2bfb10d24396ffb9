import FormulaSheet.Log.Journal
import FormulaSheet.Machine

/-!
# The event log

The program records events only while a log is attached to it. If an event cannot be written, or its
line cannot be forced to the disk where that is asked for, people are warned once, and the program
goes on. What an evaluation or the loading of a sheet has to tell comes with its result.

* `emit_warned`: a warning is never taken back.
-/

namespace FormulaSheet

/-- The event log of the program. -/
structure Log where
  /-- the file of events -/
  journal : Journal
  /-- how the file is accessed -/
  access : Access
  /-- whether each line is forced to the disk when it is written -/
  sync : Bool
  /-- whether the program records its events -/
  attached : Bool
  /-- whether a warning was given that an event was lost -/
  warned : Bool

/-- What becomes of a line that is written. -/
inductive Storing where
  /-- it is added, and can be forced to the disk -/
  | kept
  /-- it is added, and cannot be forced to the disk -/
  | unsynced
  /-- it is not added -/
  | refused
  deriving DecidableEq, Repr

namespace Log

/-- A log without a file that is not attached. -/
def empty : Log :=
  ⟨.absent, .standard, false, false, false⟩

/-- Writes an event. Gives the log then, and whether the write has succeeded: it has not if the line
was added and should have been forced to the disk. -/
def put (l : Log) (storing : Storing) (e : Event) : Log × Bool :=
  match l.journal.write l.access e with
  | .error _ => (l, false)
  | .ok journal =>
    match storing with
    | .kept => ({ l with journal }, true)
    | .unsynced => ({ l with journal }, !l.sync)
    | .refused => (l, false)

/-- Records an event, if the log is attached. -/
def emit (l : Log) (e : Event) : Log :=
  if l.attached then
    match l.put .kept e.capped with
    | (l, true) => l
    | (l, false) => { l with warned := true }
  else l

/-- Records events, one after the other. -/
def emitAll (l : Log) (es : List Event) : Log :=
  es.foldl emit l

/-- Records the notices of an evaluation. -/
def notify (l : Log) (now : Text) (notices : List Notice) : Log :=
  l.emitAll (notices.map (Event.ofNotice now))

/-- What becomes of the events that the log is told of. -/
def state (l : Log) : LogState :=
  if l.attached then
    match l.journal with
    | .blocked => .fails
    | .absent | .octets _ => .works
  else .detached

theorem put_refused (l : Log) (e : Event) : l.put .refused e = (l, false) := by
  rw [put]
  cases l.journal.write l.access e <;> rfl

/-- To write an event changes nothing but the file. -/
theorem put_fst (l : Log) (storing : Storing) (e : Event) :
    (l.put storing e).1 = { l with journal := (l.put storing e).1.journal } := by
  rw [put]
  cases l.journal.write l.access e with
  | error f => rfl
  | ok journal => cases storing <;> rfl

/-- To record an event changes nothing but the file and whether people were warned. -/
theorem emit_fst (l : Log) (e : Event) :
    l.emit e = { l with journal := (l.emit e).journal, warned := (l.emit e).warned } := by
  rw [emit]
  split
  · have hput := l.put_fst .kept e.capped
    generalize l.put .kept e.capped = p at hput
    obtain ⟨next, written⟩ := p
    dsimp only at hput
    rw [hput]
    cases written <;> rfl
  · rfl

theorem attached_emit (l : Log) (e : Event) : (l.emit e).attached = l.attached := by
  rw [emit_fst]

theorem access_emit (l : Log) (e : Event) : (l.emit e).access = l.access := by
  rw [emit_fst]

theorem emit_warned {l : Log} (h : l.warned = true) (e : Event) : (l.emit e).warned = true := by
  have hput : (l.put .kept e.capped).1.warned = true := by
    rw [put_fst]
    exact h
  rw [emit]
  split
  · split
    · rename_i hp
      rw [hp] at hput
      exact hput
    · rfl
  · exact h

end Log

end FormulaSheet
