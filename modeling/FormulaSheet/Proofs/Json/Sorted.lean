import FormulaSheet.Proofs.Json.Plain
import Mathlib.Data.List.Forall2

/-!
# Documents with their fields in order

Before a document is written the fields of its objects are brought into the order of their names.
What comes out is the same mapping: under each name there is what was there before, up to the order
of the fields inside of it.

* `Alike`: documents that differ in the order of fields only;
* `IsPlain.sorted`, `IsExact.sorted`, `depth_sorted_le`: ordered documents are plain, exact and
  nested as before;
* `IsPlain.alike_sorted`: an ordered document is alike to what it was made from.
-/

namespace FormulaSheet.Json

/-- The documents are the same up to the order of the fields in their objects. -/
inductive Alike : Json → Json → Prop
  /-- a document is alike to itself -/
  | same (j : Json) : Alike j j
  /-- sequences are compared item by item -/
  | arr {items others : List Json} (h : List.Forall₂ Alike items others) :
    Alike (arr items) (arr others)
  /-- objects are compared by what they have under each name -/
  | obj {fields others : List (Text × Json)}
    (h : ∀ name, Option.Rel Alike (Register.find? name fields) (Register.find? name others)) :
    Alike (obj fields) (obj others)

/-! ## The parts of an ordered document -/

theorem sortedFields_eq (fields : List (Text × Json)) :
    sortedFields fields = fields.map fun f => (f.1, sorted f.2) := by
  induction fields with
  | nil => rfl
  | cons f fields ih => rw [sortedFields, ih, List.map_cons]

theorem names_sortedFields (fields : List (Text × Json)) :
    Register.names (sortedFields fields) = Register.names fields := by
  rw [sortedFields_eq, Register.names, Register.names, List.map_map]
  rfl

/-- Ordering the fields of an object keeps their names apart. -/
theorem names_mergeSort_nodup {fields : List (Text × Json)}
    (h : (Register.names fields).Nodup) :
    (Register.names ((sortedFields fields).mergeSort precedes)).Nodup := by
  have hp := (List.mergeSort_perm (sortedFields fields) precedes).map (·.1)
  refine hp.nodup_iff.2 ?_
  rw [← names_sortedFields fields] at h
  exact h

/-- What an ordered object has under a name. -/
theorem find?_mergeSort {fields : List (Text × Json)} (h : (Register.names fields).Nodup)
    (name : Text) : Register.find? name ((sortedFields fields).mergeSort precedes) =
      (Register.find? name fields).map sorted := by
  rw [Register.find?_perm (names_mergeSort_nodup h) (List.mergeSort_perm _ _), sortedFields_eq]
  exact Register.find?_map sorted name fields

/-! ## What stays -/

mutual

/-- An ordered document is plain if the document was. -/
theorem IsPlain.sorted : ∀ {j : Json}, IsPlain j → IsPlain (sorted j)
  | null, h | bool _, h | int _, h | float _, h | str _, h => h
  | arr items, h => ArePlain.sorted (show ArePlain items from h)
  | obj fields, h => by
    refine ⟨names_mergeSort_nodup h.1, fieldsArePlain_iff.2 fun f hf => ?_⟩
    have hm : f ∈ sortedFields fields := (List.mergeSort_perm _ _).mem_iff.1 hf
    exact fieldsArePlain_iff.1 (FieldsArePlain.sorted h.2) f hm

theorem ArePlain.sorted : ∀ {items : List Json}, ArePlain items → ArePlain (sortedItems items)
  | [], h => h
  | _ :: _, h => ⟨h.1.sorted, ArePlain.sorted h.2⟩

theorem FieldsArePlain.sorted : ∀ {fields : List (Text × Json)}, FieldsArePlain fields →
    FieldsArePlain (sortedFields fields)
  | [], h => h
  | _ :: _, h => ⟨h.1, h.2.1.sorted, FieldsArePlain.sorted h.2.2⟩

end

mutual

/-- An ordered document is exact if the document was. -/
theorem IsExact.sorted : ∀ {j : Json}, IsExact j → IsExact (sorted j)
  | null, h | bool _, h | int _, h | float _, h | str _, h => h
  | arr items, h => AreExact.sorted (show AreExact items from h)
  | obj fields, h => fieldsAreExact_iff.2 fun f hf => by
    have hm : f ∈ sortedFields fields := (List.mergeSort_perm _ _).mem_iff.1 hf
    exact fieldsAreExact_iff.1 (FieldsAreExact.sorted (show FieldsAreExact fields from h)) f hm

theorem AreExact.sorted : ∀ {items : List Json}, AreExact items → AreExact (sortedItems items)
  | [], h => h
  | _ :: _, h => ⟨h.1.sorted, AreExact.sorted h.2⟩

theorem FieldsAreExact.sorted : ∀ {fields : List (Text × Json)}, FieldsAreExact fields →
    FieldsAreExact (sortedFields fields)
  | [], h => h
  | (_, _) :: _, h => ⟨h.1.sorted, FieldsAreExact.sorted h.2⟩

end

theorem fieldsDepth_le_iff {fields : List (Text × Json)} {k : Nat} :
    fieldsDepth fields ≤ k ↔ ∀ f ∈ fields, depth f.2 ≤ k := by
  induction fields with
  | nil => simp [fieldsDepth]
  | cons f fields ih => rw [fieldsDepth, Nat.max_le, ih, List.forall_mem_cons]

mutual

/-- An ordered document is nested no deeper. -/
theorem depth_sorted_le : ∀ {j : Json} {k : Nat}, depth j ≤ k → depth (sorted j) ≤ k
  | null, _, h | bool _, _, h | int _, _, h | float _, _, h | str _, _, h => h
  | arr items, k, h => by
    rw [depth] at h
    have hi : itemsDepth (sortedItems items) ≤ k - 1 := itemsDepth_sorted_le (by omega)
    rw [sorted, depth]
    omega
  | obj fields, k, h => by
    rw [depth] at h
    have hf : fieldsDepth (sortedFields fields) ≤ k - 1 := fieldsDepth_sorted_le (by omega)
    have hs : fieldsDepth ((sortedFields fields).mergeSort precedes) ≤ k - 1 := by
      refine fieldsDepth_le_iff.2 fun f hm => ?_
      exact fieldsDepth_le_iff.1 hf f ((List.mergeSort_perm _ _).mem_iff.1 hm)
    rw [sorted, depth]
    omega

theorem itemsDepth_sorted_le : ∀ {items : List Json} {k : Nat}, itemsDepth items ≤ k →
    itemsDepth (sortedItems items) ≤ k
  | [], _, h => h
  | _ :: _, _, h => by
    rw [itemsDepth, Nat.max_le] at h
    exact Nat.max_le.2 ⟨depth_sorted_le h.1, itemsDepth_sorted_le h.2⟩

theorem fieldsDepth_sorted_le : ∀ {fields : List (Text × Json)} {k : Nat},
    fieldsDepth fields ≤ k → fieldsDepth (sortedFields fields) ≤ k
  | [], _, h => h
  | (_, _) :: _, _, h => by
    rw [fieldsDepth, Nat.max_le] at h
    exact Nat.max_le.2 ⟨depth_sorted_le h.1, fieldsDepth_sorted_le h.2⟩

end

mutual

/-- **An ordered document** is alike to what it was made from. -/
theorem IsPlain.alike_sorted : ∀ {j : Json}, IsPlain j → Alike (sorted j) j
  | null, _ | bool _, _ | int _, _ | float _, _ | str _, _ => .same _
  | arr items, h => .arr (ArePlain.alike_sorted (show ArePlain items from h))
  | obj fields, h => by
    -- the order does not count, so that under each name there is an ordered field
    refine .obj fun name => ?_
    rw [find?_mergeSort h.1]
    cases hf : Register.find? name fields with
    | none => exact .none
    | some j => exact .some (FieldsArePlain.alike_sorted h.2 _ (Register.mem_of_find? hf))

theorem ArePlain.alike_sorted : ∀ {items : List Json}, ArePlain items →
    List.Forall₂ Alike (sortedItems items) items
  | [], _ => .nil
  | _ :: _, h => .cons h.1.alike_sorted (ArePlain.alike_sorted h.2)

theorem FieldsArePlain.alike_sorted : ∀ {fields : List (Text × Json)}, FieldsArePlain fields →
    ∀ f ∈ fields, Alike (sorted f.2) f.2
  | [], _, _, hf => absurd hf List.not_mem_nil
  | (_, _) :: _, h, f, hf => by
    rcases List.mem_cons.1 hf with rfl | hf
    · exact h.2.1.alike_sorted
    · exact FieldsArePlain.alike_sorted h.2.2 f hf

end

end FormulaSheet.Json
