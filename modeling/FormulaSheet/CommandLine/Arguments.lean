import FormulaSheet.Text

/-!
# Arguments of a command

The words behind a command are options and arguments. An option starts with a hyphen; it is a flag,
or it takes a value, which is the next word or stands behind an equals sign. Two hyphens alone end
the options. Some commands take options only in front of their first argument.

A word that is only a hyphen is an argument, and the value of an option may start with one.

* `read_of_plain`: words that do not start with a hyphen are arguments.
-/

namespace FormulaSheet.CommandLine

/-- The words behind a command, sorted. -/
structure Arguments where
  /-- the options in the order in which they were given, with their values -/
  options : List (Text × Text)
  /-- the other words -/
  rest : List Text
  deriving Repr

/-- Which options a command has. -/
structure OptionSet where
  /-- the options that take a value -/
  valued : List Text
  /-- the options that take none -/
  flags : List Text
  /-- whether options may stand behind arguments -/
  anywhere : Bool

namespace Arguments

/-- Whether an option was given. -/
def has (a : Arguments) (name : Text) : Bool :=
  a.options.any (·.1 == name)

/-- The value of an option, the last one if it was given several times. -/
def value? (a : Arguments) (name : Text) : Option Text :=
  (a.options.reverse.find? (·.1 == name)).map (·.2)

/-- Adds an option in front. -/
def withOption (name value : Text) (a : Arguments) : Arguments :=
  { a with options := (name, value) :: a.options }

/-- Adds an argument in front. -/
def withArgument (word : Text) (a : Arguments) : Arguments :=
  { a with rest := word :: a.rest }

/-- Whether a word is an option. -/
def isOption (word : Text) : Bool :=
  match word.toList with
  | .char '-' :: _ :: _ => true
  | _ => false

/-- The part of a word in front of its first equals sign, and the part behind it. -/
def splitValue (word : Text) : Text × Option Text :=
  let name := word.toList.takeWhile (· ≠ .char '=')
  match word.toList.drop name.length with
  | _ :: value => (Text.ofList name, some (Text.ofList value))
  | [] => (word, none)

/-- Sorts words; nothing if an option is unknown, lacks its value, or has one too much. -/
def read (set : OptionSet) : List Text → Option Arguments
  | [] => some ⟨[], []⟩
  | word :: words =>
    if word == "--" then some ⟨[], words⟩
    else if isOption word then
      let (name, attached) := splitValue word
      if set.valued.contains name then
        match attached with
        | some value => (read set words).map (withOption name value)
        | none =>
          match words with
          | value :: more => (read set more).map (withOption name value)
          | [] => none
      else if set.flags.contains name && attached.isNone then
        (read set words).map (withOption name "")
      else none
    else if set.anywhere then (read set words).map (withArgument word)
    else some ⟨[], word :: words⟩

theorem read_of_plain {set : OptionSet} {words : List Text}
    (h : ∀ word ∈ words, isOption word = false ∧ word ≠ "--") :
    read set words = some ⟨[], words⟩ := by
  induction words with
  | nil => rfl
  | cons word words ih =>
    have hw := h word (by simp)
    rw [read, if_neg (by simpa using hw.2), if_neg (by simp [hw.1])]
    split
    · rw [ih fun w hm => h w (by simp [hm])]
      rfl
    · rfl

end Arguments

end FormulaSheet.CommandLine
