/-!
# The stack

Only so many calls may be open at once. The grammar rules call one another, so that an expression
that is nested in another takes three more calls: one for itself, one for its term and one for the
factor. What a factor calls in turn, to look at a token or to follow a reference, must find room
beneath it. Where a call finds no room, the evaluation is cut.

How many calls there are room for, and how many are open while a token is looked at or the event log
is told of something, is not for the program to say. It depends on what runs it, on where it is
called from and on the log.

* `Stack.room_add`: the calls of the open expressions and the room beneath them make up the stack.
-/

namespace FormulaSheet

/-- The calls that there is room for, and what calls take that are not those of a rule. -/
structure Stack where
  /-- how many calls may be open in an evaluation -/
  frames : Nat
  /-- how many are open at most beneath a factor that looks at its token -/
  look : Nat
  /-- how many are open at most while the event log is told of something -/
  warning : Nat
  /-- from the evaluation itself the event log can be told -/
  tells : warning < frames

namespace Stack

/-- The stack where nothing is said about it: there is room for a thousand calls, an evaluation is
the fourth of them, and no event log is attached. -/
def standard : Stack :=
  ⟨996, 3, 5, by decide⟩

/-- The same where an event log is attached and can be written. -/
def logging : Stack :=
  { standard with warning := 10, tells := by decide }

/-- The calls of an expression, its term and its factor. -/
def perExpression : Nat :=
  3

/-- How many expressions may be open at once. In the innermost of them the factor looks at a
token. -/
def levels (s : Stack) : Nat :=
  (s.frames - s.look) / perExpression

/-- The room beneath a factor, where so many expressions may still be nested in its own. -/
def room (s : Stack) (depth : Nat) : Nat :=
  s.look + (s.frames - s.look) % perExpression + perExpression * depth

/-- **The open expressions** and the room beneath the factor of the last of them make up the
stack. -/
theorem room_add {s : Stack} {depth : Nat} (hl : s.look ≤ s.frames) (h : depth ≤ s.levels) :
    s.room depth + perExpression * (s.levels - depth) = s.frames := by
  have hd := Nat.div_add_mod (s.frames - s.look) perExpression
  simp only [room, levels, perExpression] at *
  omega

theorem standard_levels : standard.levels = 331 := by
  decide

theorem room_mono (s : Stack) {depth depth' : Nat} (h : depth ≤ depth') :
    s.room depth ≤ s.room depth' :=
  Nat.add_le_add_left (Nat.mul_le_mul_left perExpression h) _

end Stack

end FormulaSheet
