import FormulaSheet.Text

/-!
# Decimal digits of every script

Numbers may be written with the decimal digits of any script: each script has ten of them, in ten
consecutive code points from its zero on. The module holds the zeros, the value of a digit, and the
reading and writing of natural numbers in decimal notation.

* `ofDecimal_decimal`: reading what was written gives the number back.
-/

namespace FormulaSheet.Text

/-- The digit zero of every script that has decimal digits. -/
def zeros : List Nat :=
  [0x30, 0x660, 0x6f0, 0x7c0, 0x966, 0x9e6, 0xa66, 0xae6, 0xb66, 0xbe6, 0xc66, 0xce6, 0xd66,
   0xde6, 0xe50, 0xed0, 0xf20, 0x1040, 0x1090, 0x17e0, 0x1810, 0x1946, 0x19d0, 0x1a80, 0x1a90,
   0x1b50, 0x1bb0, 0x1c40, 0x1c50, 0xa620, 0xa8d0, 0xa900, 0xa9d0, 0xa9f0, 0xaa50, 0xabf0, 0xff10,
   0x104a0, 0x10d30, 0x11066, 0x110f0, 0x11136, 0x111d0, 0x112f0, 0x11450, 0x114d0, 0x11650,
   0x116c0, 0x11730, 0x118e0, 0x11950, 0x11c50, 0x11d50, 0x11da0, 0x16a60, 0x16ac0, 0x16b50,
   0x1d7ce, 0x1d7d8, 0x1d7e2, 0x1d7ec, 0x1d7f6, 0x1e140, 0x1e2f0, 0x1e950, 0x1fbf0]

/-- The value of a decimal digit of any script. -/
def digitValue? (c : Point) : Option Nat :=
  (zeros.find? fun z => z ≤ c.toNat && c.toNat < z + 10).map (c.toNat - ·)

/-- Whether the character is a decimal digit of some script. -/
def isDecimalDigit (c : Point) : Bool :=
  (digitValue? c).isSome

/-- The ASCII digit of a value below ten. -/
def digitChar (d : Nat) : Point :=
  Point.ofNat (0x30 + d)

/-- A natural number in decimal notation, without leading zeros. -/
def decimal (n : Nat) : List Point :=
  if n < 10 then [digitChar n] else decimal (n / 10) ++ [digitChar (n % 10)]

/-- A natural number in decimal notation with at least so many digits. -/
def padded (width n : Nat) : List Point :=
  let ds := decimal n
  List.replicate (width - ds.length) (Point.char '0') ++ ds

/-- The number that a run of ASCII digits denotes. -/
def ofDecimal (ds : List Point) : Nat :=
  ds.foldl (fun n c => n * 10 + (c.toNat - 0x30)) 0

/-- A natural number in decimal notation, as text. -/
def natText (n : Nat) : Text :=
  Text.ofList (decimal n)

/-- An integer in decimal notation, with a minus sign in front of a negative one. -/
def intText : Int → Text
  | .ofNat n => natText n
  | .negSucc n => "-" ++ natText (n + 1)

theorem digitChar_toNat {d : Nat} (h : d < 10) : (digitChar d).toNat = 0x30 + d := by
  match d, h with
  | 0, _ | 1, _ | 2, _ | 3, _ | 4, _ | 5, _ | 6, _ | 7, _ | 8, _ | 9, _ => rfl

theorem ofDecimal_append_singleton (ds : List Point) (c : Point) :
    ofDecimal (ds ++ [c]) = ofDecimal ds * 10 + (c.toNat - 0x30) := by
  simp [ofDecimal]

/-- Reading a number in decimal notation gives the number that was written. -/
theorem ofDecimal_decimal (n : Nat) : ofDecimal (decimal n) = n := by
  induction n using Nat.strongRecOn with
  | _ n ih =>
    rw [decimal]
    split
    · rename_i h
      simp only [ofDecimal, List.foldl_cons, List.foldl_nil, digitChar_toNat h]
      omega
    · rename_i h
      rw [ofDecimal_append_singleton, ih (n / 10) (by omega), digitChar_toNat (by omega)]
      omega

end FormulaSheet.Text
