import FormulaSheet.Proofs.Json.Sorted
import FormulaSheet.Proofs.Json.Strict

/-!
# How long documents are as text

A character of a text takes up between one and twelve characters of a document. The length of a
document is that of its parts and of what stands between them; so it does not matter in which order
the fields of an object are written.

* `length_quote_bounds`: how long a text is in quotes;
* `length_joined`, `length_text_obj`: how long an object is;
* `length_text_sorted`: a document is as long when its fields are in order.
-/

namespace FormulaSheet

theorem Text.length_hex (width n : Nat) : (hex width n).length = width := by
  induction width generalizing n with
  | zero => rfl
  | succ width ih => rw [hex, List.length_append, ih, List.length_singleton]

/-- Characters that can be seen are one octet each. -/
theorem Utf8.length_encode_of_visible {s : List Point} (h : ∀ c ∈ s, Json.isVisible c = true) :
    (encode s).length = s.length := by
  induction s with
  | nil => rfl
  | cons c s ih =>
    obtain ⟨hc, hs⟩ := List.forall_mem_cons.1 h
    rw [Json.isVisible, Bool.and_eq_true, decide_eq_true_eq, decide_eq_true_eq] at hc
    have hone : octets c = [UInt8.ofNat c.toNat] := if_pos (by omega)
    rw [encode, List.flatMap_cons, ← encode, hone, List.length_append, ih hs,
      List.length_singleton, List.length_cons, Nat.add_comm]

namespace Json

/-! ## Texts -/

theorem length_unit (n : Nat) : (unit n).length = 6 := by
  rw [unit, List.length_cons, List.length_cons, Text.length_hex]

/-- A character takes up at least one character, and at most two numbers of six. -/
theorem length_escape_bounds (c : Point) : 1 ≤ (escape c).length ∧ (escape c).length ≤ 12 := by
  unfold escape
  repeat' split
  all_goals simp [length_unit]

/-- **A text in quotes** is at least as long as it is, and at most about twelve times as long. -/
theorem length_quote_bounds (s : Text) :
    s.length + 2 ≤ (quote s).length ∧ (quote s).length ≤ 12 * s.length + 2 := by
  have hescapes (t : List Point) :
      t.length ≤ (t.flatMap escape).length ∧ (t.flatMap escape).length ≤ 12 * t.length := by
    induction t with
    | nil => exact ⟨Nat.le_refl 0, Nat.le_refl 0⟩
    | cons c t ih =>
      have hc := length_escape_bounds c
      rw [List.flatMap_cons, List.length_append, List.length_cons]
      omega
  have h := hescapes s.toList
  rw [Text.length_toList] at h
  rw [quote, List.length_append, List.length_cons, List.length_singleton]
  omega

/-! ## Objects -/

/-- Texts that are joined are as long as they are and what separates them. -/
theorem length_joined (separator : List Point) (texts : List (List Point)) :
    (joined separator texts).length =
      (texts.map List.length).sum + separator.length * (texts.length - 1) := by
  induction texts with
  | nil => rfl
  | cons t texts ih =>
    cases texts with
    | nil => simp [joined]
    | cons u texts =>
      have hj : joined separator (t :: u :: texts) =
          t ++ separator ++ joined separator (u :: texts) := rfl
      rw [hj, List.length_append, List.length_append, ih]
      simp only [List.map_cons, List.sum_cons, List.length_cons, Nat.add_sub_cancel, Nat.mul_add,
        Nat.mul_one]
      omega

/-- How long an object is. -/
theorem length_text_obj (fields : List (Text × Json)) : (text (obj fields)).length =
    2 + (fields.map fun f => (quote f.1).length + 2 + (text f.2).length).sum +
      2 * (fields.length - 1) := by
  have hfield :
      (List.length ∘ fun f : Text × Json => quote f.1 ++ Point.char ':' :: .char ' ' :: text f.2) =
      fun f => (quote f.1).length + 2 + (text f.2).length := by
    funext f
    simp only [Function.comp, List.length_append, List.length_cons]
    omega
  rw [text, List.length_append, List.length_cons, List.length_singleton, length_joined,
    fieldTexts_eq_map, List.map_map, hfield, List.length_map]
  simp only [List.length_cons, List.length_nil]
  omega

theorem itemTexts_eq_map (items : List Json) : itemTexts items = items.map text := by
  induction items with
  | nil => rfl
  | cons j items ih => rw [itemTexts, ih, List.map_cons]

/-- How long a sequence is. -/
theorem length_text_arr (items : List Json) : (text (arr items)).length =
    2 + (items.map fun j => (text j).length).sum + 2 * (items.length - 1) := by
  have hitem : (List.length ∘ text) = fun j => (text j).length := rfl
  rw [text, List.length_append, List.length_cons, List.length_singleton, length_joined,
    itemTexts_eq_map, List.map_map, hitem, List.length_map]
  simp only [List.length_cons, List.length_nil]
  omega

/-! ## Documents with their fields in order -/

mutual

/-- **A document** is as long when its fields are in order. -/
theorem length_text_sorted : ∀ j : Json, (text (sorted j)).length = (text j).length
  | null | bool _ | int _ | float _ | str _ => rfl
  | arr items => by
    obtain ⟨hsum, hlength⟩ := length_sortedItems items
    rw [sorted, length_text_arr, length_text_arr, hsum, hlength]
  | obj fields => by
    obtain ⟨hsum, hlength⟩ := length_sortedFields fields
    have hp := List.mergeSort_perm (sortedFields fields) precedes
    rw [sorted, length_text_obj, length_text_obj, (hp.map _).sum_eq, hp.length_eq, hsum, hlength]

theorem length_sortedItems : ∀ items : List Json,
    ((sortedItems items).map fun j => (text j).length).sum =
        (items.map fun j => (text j).length).sum ∧
      (sortedItems items).length = items.length
  | [] => ⟨rfl, rfl⟩
  | j :: items => by
    obtain ⟨hsum, hlength⟩ := length_sortedItems items
    simp only [sortedItems, List.map_cons, List.sum_cons, List.length_cons, hsum, hlength,
      length_text_sorted j, and_self]

theorem length_sortedFields : ∀ fields : List (Text × Json),
    ((sortedFields fields).map fun f => (quote f.1).length + 2 + (text f.2).length).sum =
        (fields.map fun f => (quote f.1).length + 2 + (text f.2).length).sum ∧
      (sortedFields fields).length = fields.length
  | [] => ⟨rfl, rfl⟩
  | (name, j) :: fields => by
    obtain ⟨hsum, hlength⟩ := length_sortedFields fields
    simp only [sortedFields, List.map_cons, List.sum_cons, List.length_cons, hsum, hlength,
      length_text_sorted j, and_self]

end

end Json

end FormulaSheet
