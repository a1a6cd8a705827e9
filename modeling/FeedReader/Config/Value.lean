import FeedReader.Text.Quoted

/-!
# Values of a configuration

* `Config.Value`: what a configuration file can hold;
* `Config.Value.shown`: a value as messages show it, and `Config.Value.text`: the text that a value
  is read as where a text is wanted, which for a text is the text itself.
-/

namespace FeedReader.Config

/-- What a configuration file can hold. A decimal is `digits` times ten to the power `exponent`. -/
inductive Value
  | null
  | bool (value : Bool)
  | integer (value : Int)
  | decimal (digits exponent : Int)
  | text (value : Text)
  | list (values : List Value)
  | map (entries : List (Text × Value))

namespace Value

/-! ### Decimals -/

/-- The digits of a number without the zeros at its end, and how many of those there are. -/
def trimZeros (digits : Text) : Text × Nat :=
  let zeros := (digits.reverse.takeWhile (· = '0')).length
  (digits.take (digits.length - zeros), zeros)

/-- The digits with the point after the first `point` of them, and at least one on both sides. -/
def positional (digits : Text) (point : Int) : Text :=
  if point ≤ 0 then "0." ++ List.replicate (-point).toNat '0' ++ digits
  else
    let n := point.toNat
    digits.take n ++ List.replicate (n - digits.length) '0' ++ ['.'] ++
      if digits.length ≤ n then ['0'] else digits.drop n

/-- One digit before the point, and a power of ten whose exponent has two digits at least. -/
def scientific (digits : Text) (exponent : Int) : Text :=
  let fraction := digits.drop 1
  let n := Text.decimal exponent.natAbs
  digits.take 1 ++ (if fraction.isEmpty then [] else '.' :: fraction) ++ ['e'] ++
    [if exponent < 0 then '-' else '+'] ++ (if n.length < 2 then '0' :: n else n)

/-- A decimal with its own digits. It is positional if its first digit stands at most four places
after the point and at most sixteen before it. -/
def shownDecimal (digits exponent : Int) : Text :=
  let sign : Text := if digits < 0 then ['-'] else []
  let (trimmed, zeros) := trimZeros (Text.decimal digits.natAbs)
  if digits = 0 then "0.0"
  else
    let point := trimmed.length + zeros + exponent
    if -4 < point ∧ point ≤ 16 then sign ++ positional trimmed point
    else sign ++ scientific trimmed (point - 1)

/-! ### Values in messages -/

mutual

/-- A value as messages show it. -/
def shown : Value → Text
  | null => "None"
  | bool true => "True"
  | bool false => "False"
  | integer n => Text.decimalInt n
  | decimal digits exponent => shownDecimal digits exponent
  | text t => Text.quoted t
  | list vs => '[' :: (Text.joinWith ", " (shownValues vs) ++ [']'])
  | map es => '\x7b' :: (Text.joinWith ", " (shownEntries es) ++ ['\x7d'])

/-- Each value as messages show it. -/
def shownValues : List Value → List Text
  | [] => []
  | v :: vs => shown v :: shownValues vs

/-- Each entry of a map as messages show it. -/
def shownEntries : List (Text × Value) → List Text
  | [] => []
  | (k, v) :: es => (Text.quoted k ++ ": " ++ shown v) :: shownEntries es

end

/-- A value where a text is wanted. -/
def toText : Value → Text
  | text t => t
  | v => v.shown

/-- Whether a value counts as nothing at all: no value, no digits, no characters or no elements. -/
def isNothing : Value → Bool
  | null => true
  | bool b => !b
  | integer n => n = 0
  | decimal digits _ => digits = 0
  | text t => t.isEmpty
  | list vs => vs.isEmpty
  | map es => es.isEmpty

/-- The text that a value is. -/
def text? : Value → Option Text
  | text t => some t
  | _ => none

/-- The texts of a list of nothing but texts. -/
def texts? : Value → Option (List Text)
  | list vs => vs.mapM text?
  | _ => none

end Value

/-- The value of a key, if it is there. -/
def find? (entries : List (Text × Value)) (key : Text) : Option Value :=
  (entries.find? (·.1 = key)).map (·.2)

/-- The value of a key, if it is there and is not null. -/
def given? (entries : List (Text × Value)) (key : Text) : Option Value :=
  match find? entries key with
  | some .null => none
  | found => found

end FeedReader.Config
