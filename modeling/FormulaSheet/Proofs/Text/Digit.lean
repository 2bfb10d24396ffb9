import FormulaSheet.Number.Decimal

/-!
# Decimal notation

Numbers are written with ASCII digits, without zeros in front, and with no more digits than their
size asks for.

* `isAsciiDigit_of_mem_decimal`: only digits are written;
* `exists_decimal_of_pos`: the first digit of a positive number is not zero;
* `length_decimal_le`: a number below a power of ten has no more digits than the power says.
-/

namespace FormulaSheet

theorem Number.isAsciiDigit_iff {c : Point} :
    isAsciiDigit c = true ↔ 0x30 ≤ c.toNat ∧ c.toNat ≤ 0x39 := by
  simp only [isAsciiDigit, Bool.and_eq_true, decide_eq_true_eq, Point.le_def]
  rfl

namespace Text

theorem isAsciiDigit_digitChar {d : Nat} (h : d < 10) :
    Number.isAsciiDigit (digitChar d) = true := by
  rw [Number.isAsciiDigit_iff, digitChar_toNat h]
  omega

theorem isAsciiDigit_of_mem_decimal {n : Nat} {c : Point} (h : c ∈ decimal n) :
    Number.isAsciiDigit c = true := by
  induction n using Nat.strongRecOn with
  | _ n ih =>
    rw [decimal] at h
    split at h
    · rename_i hn
      rw [List.mem_singleton.1 h]
      exact isAsciiDigit_digitChar hn
    · rcases List.mem_append.1 h with h | h
      · exact ih (n / 10) (by omega) h
      · rw [List.mem_singleton.1 h]
        exact isAsciiDigit_digitChar (by omega)

theorem decimal_zero : decimal 0 = [Point.char '0'] := by
  rw [decimal]
  rfl

/-- The first digit of a positive number is not zero. -/
theorem exists_decimal_of_pos {n : Nat} (h : 0 < n) : ∃ c ds, decimal n = c :: ds ∧ c ≠ '0' := by
  induction n using Nat.strongRecOn with
  | _ n ih =>
    rw [decimal]
    split
    · rename_i hn
      refine ⟨digitChar n, [], rfl, fun hc => ?_⟩
      have ht := digitChar_toNat hn
      rw [hc] at ht
      have hz : ('0' : Point).toNat = 0x30 := rfl
      omega
    · obtain ⟨c, ds, hd, hc⟩ := ih (n / 10) (by omega) (by omega)
      exact ⟨c, ds ++ [digitChar (n % 10)], by rw [hd, List.cons_append], hc⟩

theorem decimal_ne_nil (n : Nat) : decimal n ≠ [] := by
  rw [decimal]
  split
  · exact List.cons_ne_nil _ _
  · exact List.append_ne_nil_of_right_ne_nil _ (List.cons_ne_nil _ _)

/-- A number below a power of ten has no more digits than the power says. -/
theorem length_decimal_le {n k : Nat} (hk : 0 < k) (h : n < Nat.pow 10 k) :
    (decimal n).length ≤ k := by
  induction k generalizing n with
  | zero => exact absurd hk (Nat.lt_irrefl 0)
  | succ k ih =>
    rw [decimal]
    split
    · exact hk
    · rename_i hn
      rw [List.length_append, List.length_singleton]
      have hpos : 0 < k := by
        rcases Nat.eq_zero_or_pos k with rfl | hpos
        · exact absurd h hn
        · exact hpos
      have hdiv : n / 10 < Nat.pow 10 k := by
        have hpow : Nat.pow 10 (k + 1) = 10 * Nat.pow 10 k := Nat.pow_succ'
        exact Nat.div_lt_of_lt_mul (hpow ▸ h)
      have := ih hpos hdiv
      omega

end Text

end FormulaSheet
