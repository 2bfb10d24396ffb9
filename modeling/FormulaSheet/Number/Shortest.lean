import FormulaSheet.Number.Binary64

/-!
# The decimals of a double

A double is written with the fewest decimal digits that still read back as it, or with a fixed
number of significant digits. This module finds the digits: a coefficient and a power of ten, in
exact arithmetic. How they are laid out as text is the business of `FormulaSheet.Number.Layout`.

The numbers that read back as a given double form an interval around it, reaching half way to its
neighbours; the ends belong to it exactly if the significand is even. For one digit, two digits and
so on, the two decimals on either side of the double are tried; the first that lie in the interval
are the shortest.

* `stripZeros_coefficient_mod`: the coefficient that is written ends in no zero.
-/

namespace FormulaSheet.Binary64

/-- A positive decimal: `coefficient * 10 ^ exponent`. -/
structure Digits where
  /-- the digits as a natural number -/
  coefficient : Nat
  /-- the power of ten they are multiplied by -/
  exponent : Int
  deriving DecidableEq, Repr

/-- Moves the trailing zeros of the coefficient into the exponent. -/
def stripZeros (coefficient : Nat) (exponent : Int) : Digits :=
  if coefficient = 0 || coefficient % 10 ≠ 0 then ⟨coefficient, exponent⟩
  else stripZeros (coefficient / 10) (exponent + 1)
termination_by coefficient
decreasing_by
  rename_i h
  simp only [Bool.or_eq_true, decide_eq_true_eq, not_or] at h
  omega

/-- The numbers that read back as a double of positive size, in units of a quarter of the spacing
above it: from `low` to `high` around `mid`. -/
structure Basin where
  /-- the lower end -/
  low : Nat
  /-- the double itself -/
  mid : Nat
  /-- the upper end -/
  high : Nat
  /-- whether the ends belong to it -/
  closed : Bool

/-- The basin of a size. Below a power of two the doubles lie twice as dense. -/
def Magnitude.basin (m : Magnitude) : Basin :=
  let lower := if m.significand = Nat.pow 2 52 && -1074 < m.exponent then 1 else 2
  ⟨4 * m.significand - lower, 4 * m.significand, 4 * m.significand + 2, m.significand % 2 == 0⟩

/-- Whether `num / den`, in units of the basin, lies in it. -/
def Basin.holds (b : Basin) (num den : Nat) : Bool :=
  if b.closed then b.low * den ≤ num && num ≤ b.high * den
  else b.low * den < num && num < b.high * den

/-- The decimal with the given power of ten that lies in the basin and is nearest to its double; if
both neighbours are at the same distance, the one with the even last digit. -/
def Magnitude.nearestOnGrid? (m : Magnitude) (exponent : Int) : Option Nat :=
  let b := m.basin
  -- one step of the grid is `num / den` units of the basin
  let num := Nat.pow 10 exponent.toNat * Nat.pow 2 (2 - m.exponent).toNat
  let den := Nat.pow 10 (-exponent).toNat * Nat.pow 2 (m.exponent - 2).toNat
  let below := b.mid * den / num
  let inside (c : Nat) := 0 < c && b.holds (c * num) den
  let nearest := roundHalfEven (b.mid * den) num
  if inside nearest then some nearest
  else if inside below then some below
  else if inside (below + 1) then some (below + 1)
  else none

/-- The decimal on the first grid, from the given one on and each ten times finer than the one
before, that has a point in the basin. After the given number of grids the nearest point is taken:
seventeen digits always suffice. -/
def Magnitude.shortestFrom (m : Magnitude) : Nat → Int → Digits
  | 0, exponent => stripZeros (roundHalfEven (m.numerator * Nat.pow 10 (-exponent).toNat)
      (m.denominator * Nat.pow 10 exponent.toNat)) exponent
  | n + 1, exponent =>
    match m.nearestOnGrid? exponent with
    | some c => stripZeros c exponent
    | none => m.shortestFrom n (exponent - 1)

/-- The fewest decimal digits that read back as a double of positive size, and among those the
nearest to it. -/
def Magnitude.shortest (m : Magnitude) : Digits :=
  m.shortestFrom 16 (floorLog10 m.numerator m.denominator)

/-- A positive size rounded to a number of significant digits, half to even. -/
def Magnitude.significant (m : Magnitude) (digits : Nat) : Digits :=
  let exponent := floorLog10 m.numerator m.denominator - (digits - 1 : Nat)
  stripZeros (roundHalfEven (m.numerator * Nat.pow 10 (-exponent).toNat)
    (m.denominator * Nat.pow 10 exponent.toNat)) exponent

/-- The coefficient that is left ends in no zero. -/
theorem stripZeros_coefficient_mod {c : Nat} {e : Int} (h : 0 < c) :
    (stripZeros c e).coefficient % 10 ≠ 0 := by
  induction c, e using stripZeros.induct with
  | case1 c e hc =>
    rw [stripZeros, if_pos hc]
    simp only [Bool.or_eq_true, decide_eq_true_eq] at hc
    rcases hc with rfl | hc
    · omega
    · exact hc
  | case2 c e hc ih =>
    rw [stripZeros, if_neg hc]
    simp only [Bool.or_eq_true, decide_eq_true_eq, not_or] at hc
    exact ih (by omega)

end FormulaSheet.Binary64
