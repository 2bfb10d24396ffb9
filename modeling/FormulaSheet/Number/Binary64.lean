/-!
# Doubles as exact rationals

A finite double is a significand times a power of two. This module takes a double apart into these
two natural quantities, and finds the double nearest to a quotient of natural numbers. Everything is
done in exact arithmetic, so what is said about the values is said about natural numbers.

* `pow_log10_le` and `lt_pow_log10`: the decimal logarithm brackets its argument.
-/

namespace FormulaSheet.Binary64

/-- The size of a finite double: `significand * 2 ^ exponent`. -/
structure Magnitude where
  /-- the significand, below `2 ^ 53` -/
  significand : Nat
  /-- the power of two it is multiplied by -/
  exponent : Int
  deriving DecidableEq, Repr

/-- Whether the sign bit of a double is set. -/
def isNegative (x : Float) : Bool :=
  Nat.pow 2 63 ≤ x.toBits.toNat

/-- The bits of a double without the sign bit. -/
def unsignedBits (x : Float) : Nat :=
  x.toBits.toNat % Nat.pow 2 63

/-- The size of a finite double. Doubles with the least exponent field have no hidden bit. -/
def magnitude (x : Float) : Magnitude :=
  let field : Nat := unsignedBits x / Nat.pow 2 52
  let fraction : Nat := unsignedBits x % Nat.pow 2 52
  if field = 0 then ⟨fraction, -1074⟩ else ⟨fraction + Nat.pow 2 52, (field : Int) - 1075⟩

namespace Magnitude

/-- The numerator of the size as a quotient of natural numbers. -/
def numerator (m : Magnitude) : Nat :=
  m.significand * Nat.pow 2 m.exponent.toNat

/-- The denominator of the size as a quotient of natural numbers. -/
def denominator (m : Magnitude) : Nat :=
  Nat.pow 2 (-m.exponent).toNat

end Magnitude

/-- Whether a double is an integer; infinities and NaN are not. -/
def isIntegral (x : Float) : Bool :=
  x.isFinite && (magnitude x).numerator % (magnitude x).denominator == 0

/-- The integer that is left of a finite double when its fraction is dropped. -/
def truncate (x : Float) : Int :=
  let n := (magnitude x).numerator / (magnitude x).denominator
  if isNegative x then -(n : Int) else n

/-! ## Rounding -/

/-- The natural number nearest to a quotient; a half goes to the even neighbour. -/
def roundHalfEven (num den : Nat) : Nat :=
  let q := num / den
  let r := num % den
  if 2 * r < den then q else if den < 2 * r then q + 1 else q + q % 2

/-- The greatest power of ten that is not above a positive number, as an exponent. -/
def log10 (n : Nat) : Nat :=
  if n < 10 then 0 else log10 (n / 10) + 1

/-- The greatest power of two that is not above a positive quotient, as an exponent. -/
def floorLog2 (num den : Nat) : Int :=
  let k : Int := num.log2 - den.log2
  if den * Nat.pow 2 k.toNat ≤ num * Nat.pow 2 (-k).toNat then k else k - 1

/-- The greatest power of ten that is not above a positive quotient, as an exponent. -/
def floorLog10 (num den : Nat) : Int :=
  if den ≤ num then log10 (num / den) else -(log10 ((den - 1) / num) + 1 : Int)

/-- The bits of positive infinity: the first value past the finite doubles. -/
def infinityBits : Nat :=
  0x7FF * Nat.pow 2 52

/-- The bits of the double nearest to a quotient. The grid of the doubles around the quotient has
the spacing `2 ^ q`; a significand that rounds up to `2 ^ 53` carries into the exponent field, and
what would lie past the greatest finite double is infinity. -/
def nearestBits (num den : Nat) : Nat :=
  if num = 0 then 0
  else
    let q := max (floorLog2 num den - 52) (-1074)
    let m := roundHalfEven (num * Nat.pow 2 (-q).toNat) (den * Nat.pow 2 q.toNat)
    min ((q + 1074).toNat * Nat.pow 2 52 + m) infinityBits

/-- The double nearest to a quotient of natural numbers, with the given sign. -/
def nearest (negative : Bool) (num den : Nat) : Float :=
  Float.ofBits (UInt64.ofNat (nearestBits num den + if negative then Nat.pow 2 63 else 0))

/-- The double nearest to an integer; infinite if the integer is too large for a finite one. -/
def ofInt (n : Int) : Float :=
  if n.natAbs.log2 ≥ 1024 then nearest (n < 0) (Nat.pow 2 1024) 1 else nearest (n < 0) n.natAbs 1

theorem pow_log10_le {n : Nat} (h : 0 < n) : Nat.pow 10 (log10 n) ≤ n := by
  induction n using Nat.strongRecOn with
  | _ n ih =>
    rw [log10]
    split
    · exact h
    · have := ih (n / 10) (by omega) (by omega)
      rw [Nat.pow, Nat.mul_eq]
      omega

theorem lt_pow_log10 (n : Nat) : n < Nat.pow 10 (log10 n + 1) := by
  induction n using Nat.strongRecOn with
  | _ n ih =>
    rw [log10]
    split
    · simpa using ‹n < 10›
    · have := ih (n / 10) (by omega)
      rw [Nat.pow, Nat.mul_eq]
      omega

end FormulaSheet.Binary64
