import FormulaSheet.Text

/-!
# Registers

A register holds things under names, in the order in which the names came first. What is put under a
name that is there takes the place of what it held.

* `find?_put_self`, `find?_put_of_ne`: putting changes what one name holds and nothing else.
* `names_put_nodup`: a register without a repeated name stays so.
-/

namespace FormulaSheet

/-- Things under names, in order. -/
abbrev Register (α : Type) : Type :=
  List (Text × α)

namespace Register

variable {α : Type}

/-- The names, in order. -/
def names (r : Register α) : List Text :=
  r.map (·.1)

/-- What a name holds. -/
def find? (name : Text) : Register α → Option α
  | [] => none
  | e :: r => if e.1 = name then some e.2 else find? name r

/-- Puts something under a name: in its place if it is there, or else at the end. -/
def put (name : Text) (x : α) : Register α → Register α
  | [] => [(name, x)]
  | e :: r => if e.1 = name then (name, x) :: r else e :: put name x r

/-- The register of a list of entries, put one after the other. -/
def ofList (entries : List (Text × α)) : Register α :=
  entries.foldl (fun r e => r.put e.1 e.2) []

theorem find?_put_self (name : Text) (x : α) (r : Register α) :
    (r.put name x).find? name = some x := by
  induction r with
  | nil => simp [put, find?]
  | cons e r ih =>
    rw [put]
    split
    · simp [find?]
    · rename_i h
      simp [find?, h, ih]

theorem find?_put_of_ne {name other : Text} (h : other ≠ name) (x : α) (r : Register α) :
    (r.put name x).find? other = r.find? other := by
  induction r with
  | nil => simp [put, find?, h.symm]
  | cons e r ih =>
    rw [put]
    split
    · rename_i he
      simp [find?, h.symm, he]
    · simp only [find?]
      rw [ih]

theorem mem_names_of_find? {name : Text} {x : α} {r : Register α} (h : r.find? name = some x) :
    name ∈ r.names := by
  induction r with
  | nil => simp [find?] at h
  | cons e r ih =>
    rw [find?] at h
    split at h
    · rename_i he
      simp [names, he]
    · exact List.mem_cons_of_mem _ (ih h)

@[simp]
theorem names_nil : names ([] : Register α) = [] :=
  rfl

@[simp]
theorem names_cons (e : Text × α) (r : Register α) : names (e :: r) = e.1 :: names r :=
  rfl

/-- Putting under a name that is there keeps the names. -/
theorem names_put_of_mem {name : Text} (x : α) {r : Register α} (h : name ∈ r.names) :
    (r.put name x).names = r.names := by
  induction r with
  | nil => simp at h
  | cons e r ih =>
    rw [put]
    by_cases he : e.1 = name
    · rw [if_pos he, names_cons, names_cons, he]
    · have hr : name ∈ names r := by
        rcases List.mem_cons.1 (names_cons e r ▸ h) with hn | hr
        · exact absurd hn.symm he
        · exact hr
      rw [if_neg he, names_cons, names_cons, ih hr]

/-- Putting under a new name adds it at the end. -/
theorem names_put_of_not_mem {name : Text} (x : α) {r : Register α} (h : name ∉ r.names) :
    (r.put name x).names = r.names ++ [name] := by
  induction r with
  | nil => rfl
  | cons e r ih =>
    rw [names_cons, List.mem_cons, not_or] at h
    rw [put, if_neg fun he => h.1 he.symm, names_cons, names_cons, ih h.2, List.cons_append]

theorem names_put_nodup {name : Text} {x : α} {r : Register α} (h : r.names.Nodup) :
    (r.put name x).names.Nodup := by
  by_cases hm : name ∈ r.names
  · rw [names_put_of_mem x hm]
    exact h
  · rw [names_put_of_not_mem x hm]
    refine List.nodup_append.2 ⟨h, by simp, ?_⟩
    intro a ha b hb hab
    rw [List.mem_singleton] at hb
    exact hm (hb ▸ hab ▸ ha)

/-- Every name of a register after putting was there, or is the one that was put. -/
theorem mem_names_put {name other : Text} {x : α} {r : Register α}
    (h : other ∈ (r.put name x).names) : other = name ∨ other ∈ r.names := by
  by_cases hm : name ∈ r.names
  · exact Or.inr (names_put_of_mem x hm ▸ h)
  · rw [names_put_of_not_mem x hm, List.mem_append, List.mem_singleton] at h
    exact h.symm

end Register

end FormulaSheet
