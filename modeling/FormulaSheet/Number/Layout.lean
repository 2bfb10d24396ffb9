import FormulaSheet.Number.Shortest
import FormulaSheet.Text.Digit

/-!
# Numbers as text

Two notations are in use. Stored values, log lines and machine-readable answers give the fewest
digits that read back, and a number without a fraction keeps a trailing `.0`. The answers for people
give an integer by all its digits and anything else to ten significant digits. Both write numbers of
moderate size with a plain point and the others with an exponent of at least two digits.

* `display_of_isIntegral`: an integral double is displayed by its exact digits.
-/

namespace FormulaSheet.Number

open Binary64

/-- How the digits of a number are laid out. -/
structure Layout where
  /-- the least decimal exponent that is written with a plain point -/
  positionalFrom : Int
  /-- the least decimal exponent beyond those that are written with a plain point -/
  positionalBelow : Int
  /-- what follows the digits of a number that has no fraction -/
  wholeSuffix : List Point

/-- Numbers from `0.0001` to below `10 ^ 16` have a plain point, and always one. -/
def exact : Layout :=
  ⟨-4, 16, [Point.char '.', .char '0']⟩

/-- Numbers from `0.0001` to below `10 ^ 10` have a plain point, but only in front of a fraction. -/
def tenDigits : Layout :=
  ⟨-4, 10, []⟩

/-- An exponent: its sign, then at least two digits. -/
def exponentText (e : Int) : List Point :=
  let ds := Text.decimal e.natAbs
  (if e < 0 then '-' else '+') :: (if ds.length < 2 then .char '0' :: ds else ds)

/-- Lays out positive digits. The decimal exponent of the first digit decides between a plain point
and an exponent. -/
def Layout.write (f : Layout) (d : Digits) : List Point :=
  let ds := Text.decimal d.coefficient
  let top := d.exponent + (ds.length - 1 : Nat)
  if f.positionalFrom ≤ top && top < f.positionalBelow then
    if 0 ≤ d.exponent then ds ++ List.replicate d.exponent.toNat (Point.char '0') ++ f.wholeSuffix
    else if 0 ≤ top then ds.take (top.toNat + 1) ++ Point.char '.' :: ds.drop (top.toNat + 1)
    else Point.char '0' :: .char '.' :: List.replicate (-top - 1).toNat '0' ++ ds
  else
    match ds with
    | [] => []
    | [c] => c :: .char 'e' :: exponentText top
    | c :: rest => c :: .char '.' :: rest ++ Point.char 'e' :: exponentText top

/-- Puts a minus sign in front of a negative number. -/
def signed (negative : Bool) (s : List Point) : List Point :=
  if negative then .char '-' :: s else s

/-- A finite double by the fewest digits that read back as it. -/
def shortestText (x : Float) : Text :=
  let m := magnitude x
  Text.ofList <| signed (isNegative x) <|
    if m.significand = 0 then .char '0' :: exact.wholeSuffix else exact.write m.shortest

/-- The text of a double: the fewest digits that read back, or a word. -/
def floatText (x : Float) : Text :=
  if x.isNaN then "nan"
  else if x.isFinite then shortestText x
  else if isNegative x then "-inf" else "inf"

/-- A double as it is shown to people. -/
def display (x : Float) : Text :=
  if x.isNaN then "nan"
  else if !x.isFinite then if isNegative x then "-inf" else "inf"
  else if isIntegral x then Text.intText (truncate x)
  else Text.ofList (signed (isNegative x) (tenDigits.write ((magnitude x).significant 10)))

theorem display_of_isIntegral {x : Float} (hf : x.isFinite = true) (hn : x.isNaN = false)
    (hi : isIntegral x = true) : display x = Text.intText (truncate x) := by
  rw [display, hn, if_neg Bool.false_ne_true, hf, Bool.not_true, if_neg Bool.false_ne_true,
    if_pos hi]

end FormulaSheet.Number
