import FormulaSheet.Text

/-!
# Octets as sixty-four letters

Octets are written as letters with six bits each: the capitals, the small letters, the digits and
two signs stand for the numbers from 0 to 63. Four letters give three octets; where octets are
missing at the end, equals signs stand for the letters that are missing.

Reading passes over all other characters. It ends at the equals signs that complete four letters,
and otherwise with the text, which must then hold a whole number of groups of four letters.
-/

namespace FormulaSheet.Base64

/-- The number that a letter stands for. -/
def sextet? (c : Point) : Option Nat :=
  if 'A' ≤ c ∧ c ≤ 'Z' then some (c.toNat - 0x41)
  else if 'a' ≤ c ∧ c ≤ 'z' then some (c.toNat - 0x61 + 26)
  else if '0' ≤ c ∧ c ≤ '9' then some (c.toNat - 0x30 + 52)
  else if c = '+' then some 62
  else if c = '/' then some 63
  else none

/-- Where reading stands in a group of four letters. -/
structure Group where
  /-- how many letters of the group were read -/
  count : Nat
  /-- the bits that no octet has yet, as a number -/
  left : Nat
  /-- how many equals signs were read since the last letter -/
  pads : Nat

/-- The start of a group. -/
def Group.start : Group :=
  ⟨0, 0, 0⟩

/-- The octet that a letter completes, if it completes one, and where reading stands behind it. -/
def Group.letter (g : Group) (n : Nat) : List UInt8 × Group :=
  match g.count with
  | 0 => ([], ⟨1, n, 0⟩)
  | 1 => ([UInt8.ofNat (g.left * 4 + n / 16)], ⟨2, n % 16, 0⟩)
  | 2 => ([UInt8.ofNat (g.left * 16 + n / 4)], ⟨3, n % 4, 0⟩)
  | _ => ([UInt8.ofNat (g.left * 64 + n)], .start)

/-- Reads letters inside of a group. -/
def decodeFrom (g : Group) : List Point → Option (List UInt8)
  | [] => if g.count = 0 then some [] else none
  | c :: s =>
    if c = '=' then
      if g.count < 2 then decodeFrom g s
      else if 4 ≤ g.count + g.pads + 1 then some []
      else decodeFrom { g with pads := g.pads + 1 } s
    else
      match sextet? c with
      | none => decodeFrom g s
      | some n =>
        let (octets, next) := g.letter n
        (decodeFrom next s).map (octets ++ ·)

/-- The octets that a text holds, if its letters form whole groups. -/
def decode (s : List Point) : Option (List UInt8) :=
  decodeFrom .start s

end FormulaSheet.Base64
