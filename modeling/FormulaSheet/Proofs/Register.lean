import FormulaSheet.Register

/-!
# Registers by their names

Two registers with the same names in the same order that hold the same under each name are the same,
as long as no name stands in them twice.

* `find?_map`: what a name holds after all that is held was changed;
* `eq_of_find?`: registers are determined by their names and by what these hold;
* `find?_perm`: the order of a register does not matter for what its names hold;
* `ofList_of_nodup`: a list without a repeated name is its own register.
-/

namespace FormulaSheet.Register

variable {α β : Type}

theorem find?_map (f : α → β) (name : Text) (r : Register α) :
    find? name (r.map fun e => (e.1, f e.2)) = (find? name r).map f := by
  induction r with
  | nil => rfl
  | cons e r ih =>
    rw [List.map_cons, find?, find?]
    by_cases he : e.1 = name
    · simp only [he, if_true, Option.map_some]
    · simp only [he, if_false, ih]

theorem exists_of_mem_names {name : Text} {r : Register α} (h : name ∈ r.names) :
    ∃ x, r.find? name = some x := by
  induction r with
  | nil => cases h
  | cons e r ih =>
    rw [find?]
    by_cases he : e.1 = name
    · exact ⟨e.2, if_pos he⟩
    · rw [if_neg he]
      rcases List.mem_cons.1 h with hn | h
      · exact absurd hn.symm he
      · exact ih h

theorem find?_eq_none {name : Text} {r : Register α} (h : name ∉ r.names) :
    r.find? name = none := by
  cases hf : r.find? name with
  | none => rfl
  | some x => exact absurd (mem_names_of_find? hf) h

theorem find?_append (name : Text) (r t : Register α) :
    find? name (r ++ t) = (find? name r).or (find? name t) := by
  induction r with
  | nil => rfl
  | cons e r ih =>
    rw [List.cons_append, find?, find?]
    split
    · rfl
    · exact ih

/-- **Registers are determined** by their names and by what these hold. -/
theorem eq_of_find? {r t : Register α} (hd : r.names.Nodup) (hn : r.names = t.names)
    (hf : ∀ name, r.find? name = t.find? name) : r = t := by
  induction r generalizing t with
  | nil =>
    cases t with
    | nil => rfl
    | cons e t => cases hn
  | cons d r ih =>
    cases t with
    | nil => cases hn
    | cons e t =>
      rw [names_cons, names_cons] at hn
      rw [names_cons] at hd
      obtain ⟨hname, hnames⟩ := List.cons.inj hn
      obtain ⟨hnot, hd⟩ := List.nodup_cons.1 hd
      have hhead := hf d.1
      rw [find?, find?, if_pos rfl, if_pos hname.symm] at hhead
      have htail : ∀ name, find? name r = find? name t := by
        intro name
        by_cases hm : name = d.1
        · -- behind its first place the name does not occur again
          rw [hm, find?_eq_none hnot, find?_eq_none (hnames ▸ hnot)]
        · have hne := hf name
          rw [find?, find?, if_neg (Ne.symm hm), if_neg (hname ▸ Ne.symm hm)] at hne
          exact hne
      rw [ih hd hnames htail, Prod.ext hname (Option.some.inj hhead)]

theorem mem_of_find? {name : Text} {x : α} {r : Register α} (h : r.find? name = some x) :
    (name, x) ∈ r := by
  induction r with
  | nil => cases h
  | cons e r ih =>
    rw [find?] at h
    split at h
    · rename_i he
      rw [← he, ← Option.some.inj h]
      exact List.mem_cons_self
    · exact List.mem_cons_of_mem e (ih h)

/-- Under a name that does not stand twice there is what it stands with. -/
theorem find?_eq_some_iff {name : Text} {x : α} {r : Register α} (hd : r.names.Nodup) :
    r.find? name = some x ↔ (name, x) ∈ r := by
  refine ⟨mem_of_find?, fun h => ?_⟩
  induction r with
  | nil => cases h
  | cons e r ih =>
    obtain ⟨hnot, hd⟩ := List.nodup_cons.1 hd
    rw [find?]
    rcases List.mem_cons.1 h with rfl | h
    · rw [if_pos rfl]
    · have hne : e.1 ≠ name := by
        rintro rfl
        have hm : (e.1, x).1 ∈ names r := List.mem_map_of_mem h
        exact hnot hm
      rw [if_neg hne]
      exact ih hd h

/-- The order of a register does not matter for what its names hold. -/
theorem find?_perm {r t : Register α} (hd : r.names.Nodup) (h : r.Perm t) (name : Text) :
    r.find? name = t.find? name := by
  have hp : (r.map (·.1)).Perm (t.map (·.1)) := h.map _
  have hd' : t.names.Nodup := hp.nodup_iff.1 hd
  refine Option.ext fun x => ?_
  rw [find?_eq_some_iff hd, find?_eq_some_iff hd', h.mem_iff]

/-! ## Registers of lists -/

theorem put_of_not_mem {name : Text} (x : α) {r : Register α} (h : name ∉ r.names) :
    r.put name x = r ++ [(name, x)] := by
  induction r with
  | nil => rfl
  | cons e r ih =>
    obtain ⟨hne, hr⟩ := List.ne_and_not_mem_of_not_mem_cons h
    rw [put, if_neg (Ne.symm hne), ih hr, List.cons_append]

theorem mem_put {name : Text} {x : α} {r : Register α} {e : Text × α} (h : e ∈ r.put name x) :
    e = (name, x) ∨ e ∈ r := by
  induction r with
  | nil => exact .inl (List.mem_singleton.1 h)
  | cons d r ih =>
    rw [put] at h
    split at h
    · exact (List.mem_cons.1 h).imp id (List.mem_cons_of_mem d)
    · rcases List.mem_cons.1 h with rfl | h
      · exact .inr List.mem_cons_self
      · exact (ih h).imp id (List.mem_cons_of_mem d)

/-- A list without a repeated name is its own register. -/
theorem ofList_of_nodup {r : Register α} (hd : r.names.Nodup) : ofList r = r := by
  -- what was put so far stands in front
  have hall : ∀ (r t : Register α), (t ++ r).names.Nodup →
      r.foldl (fun r e => r.put e.1 e.2) t = t ++ r := by
    intro r
    induction r with
    | nil =>
      intro t _
      exact (List.append_nil t).symm
    | cons e r ih =>
      intro t hd
      have hnot : e.1 ∉ t.names := by
        intro hm
        rw [names, List.map_append] at hd
        exact (List.nodup_append.1 hd).2.2 _ hm _ List.mem_cons_self rfl
      have happ : t ++ e :: r = (t ++ [e]) ++ r := by simp
      rw [List.foldl_cons, put_of_not_mem e.2 hnot, ih _ (happ ▸ hd), happ]
  exact hall r [] hd

theorem names_ofList_nodup (entries : List (Text × α)) : (ofList entries).names.Nodup := by
  have hall : ∀ (entries : List (Text × α)) (t : Register α), t.names.Nodup →
      (entries.foldl (fun r e => r.put e.1 e.2) t).names.Nodup := by
    intro entries
    induction entries with
    | nil => exact fun t ht => ht
    | cons e entries ih => exact fun t ht => ih _ (names_put_nodup ht)
  exact hall entries [] List.nodup_nil

/-- What is in the register of a list was in the list. -/
theorem mem_of_mem_ofList {entries : List (Text × α)} {e : Text × α} (h : e ∈ ofList entries) :
    e ∈ entries := by
  have hall : ∀ (entries : List (Text × α)) (t : Register α),
      e ∈ entries.foldl (fun r e => r.put e.1 e.2) t → e ∈ t ∨ e ∈ entries := by
    intro entries
    induction entries with
    | nil => exact fun t ht => .inl ht
    | cons d entries ih =>
      intro t ht
      rcases ih _ ht with h | h
      · rcases mem_put h with rfl | h
        · exact .inr List.mem_cons_self
        · exact .inl h
      · exact .inr (List.mem_cons_of_mem d h)
  exact (hall entries [] h).resolve_left List.not_mem_nil

end FormulaSheet.Register
