import FeedReader.Text.Basic

/-!
# Arguments of a program

Arguments that begin with a hyphen are options, some of which take a value: what follows an equals
sign in them, or else the next argument. All other arguments are operands, and so is everything
after two hyphens.

* `OptionNames`, `Arguments`, `Arguments.value?`;
* `Arguments.Reader`: whether options may stand after operands;
* `Arguments.read?`: nothing for an unknown option or a missing value.
-/

namespace FeedReader.CommandLine

/-- The options with a value, and those without. -/
structure OptionNames where
  valued : List Text := []
  flags : List Text := []

/-- Arguments taken apart. -/
structure Arguments where
  values : List (Text × Text) := []
  flags : List Text := []
  operands : List Text := []
  deriving DecidableEq

namespace Arguments

/-- The value of an option; the last one counts. -/
def value? (a : Arguments) (name : Text) : Option Text :=
  (a.values.reverse.find? (·.1 = name)).map (·.2)

/-- The arguments with another value before them. -/
def addValue (name value : Text) (a : Arguments) : Arguments :=
  { a with values := (name, value) :: a.values }

/-- The arguments with another flag. -/
def addFlag (name : Text) (a : Arguments) : Arguments := { a with flags := name :: a.flags }

/-- The arguments with another operand before them. -/
def addOperand (operand : Text) (a : Arguments) : Arguments :=
  { a with operands := operand :: a.operands }

/-- The name of an option, and the value in it if it has an equals sign. -/
def splitOption (t : Text) : Text × Option Text :=
  match t.dropWhile (· ≠ '=') with
  | '=' :: value => (t.takeWhile (· ≠ '='), some value)
  | _ => (t, none)

/-- Whether an argument is an option. -/
def isOption (t : Text) : Bool := t.head? = some '-' && t ≠ ['-']

/-- Takes arguments apart. If `mixed` is not set, everything from the first operand on is an
operand. -/
def read? (names : OptionNames) (mixed : Bool) : List Text → Option Arguments
  | [] => some {}
  | t :: ts =>
    if t = ['-', '-'] then some { operands := ts }
    else if isOption t then
      let (name, value) := splitOption t
      if name ∈ names.valued then
        match value with
        | some v => (read? names mixed ts).map (addValue name v)
        | none =>
          match ts with
          | [] => none
          | v :: rest => (read? names mixed rest).map (addValue name v)
      else if name ∈ names.flags ∧ value = none then (read? names mixed ts).map (addFlag name)
      else none
    else if mixed then (read? names mixed ts).map (addOperand t)
    else some { operands := t :: ts }

end Arguments

end FeedReader.CommandLine
