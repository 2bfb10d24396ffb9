import FormulaSheet.Label

/-!
# Kinds of tokens

The tokens of a formula are plain texts; what a token is, is decided by looking at it. This module
holds the three questions that the evaluation of a formula asks: is the token a number, is it an
operator, is it the label of a cell.
-/

namespace FormulaSheet.Token

/-- The number that a token denotes. It may be padded with blanks, but digits may not be grouped by
low lines, and only finite numbers count. A blank token is zero if `blankIsZero` is set. -/
def number? (blankIsZero : Bool) (token : Text) : Option Float :=
  let s := Text.trim token.toList
  if s.isEmpty then if blankIsZero then some 0.0 else none
  else if s.contains '_' then none
  else (Number.floatOfText? (Text.ofList s)).filter Float.isFinite

/-- The operators of sums. -/
def isAdditive (token : Text) : Bool :=
  token == "+" || token == "-"

/-- The operators of products. -/
def isMultiplicative (token : Text) : Bool :=
  token == "*" || token == "/"

/-- Whether a token is an operator. -/
def isOperator (token : Text) : Bool :=
  isAdditive token || isMultiplicative token

end FormulaSheet.Token
