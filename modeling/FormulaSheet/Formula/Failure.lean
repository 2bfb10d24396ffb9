import FormulaSheet.Value

/-!
# Why a formula has no value

A formula whose value cannot be trusted has an error value instead. Seven of them arise from the
formula itself and from what it refers to; any other error that is stored with a referenced cell is
passed on as it is. An error value is shown by its code, and described in words for people.

* `code_ne_empty`: no failure has the empty text as its code, which stands for success.
-/

namespace FormulaSheet

/-- Why a formula has no trustworthy value. -/
inductive Failure where
  /-- there is no token -/
  | empty
  /-- a token is out of place -/
  | invalid
  /-- the formula ends where an operand must stand -/
  | incomplete
  /-- a parenthesis is not closed -/
  | parentheses
  /-- a divisor is zero -/
  | divisionByZero
  /-- a reference leads to no cell with a formula -/
  | reference
  /-- a reference leads back to the cell of the formula -/
  | circular
  /-- a referenced cell has an error stored with it -/
  | stored (error : Value)

namespace Failure

/-- The code of the error value for a formula without tokens. Cells without a formula carry it. -/
def emptyCode : Text :=
  "#EMPTY!"

/-- The code of a failure. -/
def code : Failure → Value
  | empty => .str emptyCode
  | invalid => .str "#ERR!"
  | incomplete => .str "#PARTIAL!"
  | parentheses => .str "#PAREN!"
  | divisionByZero => .str "#DIV/0!"
  | reference => .str "#REF!"
  | circular => .str "#CIRC!"
  | stored error => error

/-- The code of what a formula ended with: empty if it succeeded. -/
def codeOf : Option Failure → Value
  | none => .str ""
  | some f => f.code

/-- The codes of the error values, with their descriptions. -/
def descriptions : List (Text × Text) :=
  [(emptyCode, "formula is empty"),
   ("#ERR!", "formula is not valid"),
   ("#PARTIAL!", "formula ends before an operand"),
   ("#PAREN!", "unbalanced parentheses"),
   ("#DIV/0!", "division by zero"),
   ("#REF!", "referenced cell has no formula"),
   ("#CIRC!", "circular cell reference")]

/-- The description of an error value in words. A code that is not one of the program's describes
itself. -/
def describe (code : Text) : Text :=
  (descriptions.lookup code).getD code

/-- No failure has the empty code, unless the empty text was stored as an error. -/
theorem code_ne_empty {f : Failure} (h : ∀ e, f = stored e → e.isTrue = true) :
    f.code ≠ .str "" := by
  cases f with
  | stored e =>
    intro he
    have := h e rfl
    simp only [code] at he
    simp [he, Value.isTrue] at this
  | _ => simp [code, emptyCode]

end Failure

end FormulaSheet
