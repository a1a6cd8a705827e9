import FeedReader.Config.Value
import FeedReader.Text.Digits

/-!
# Reading the values of a configuration

A configuration file holds one value in flow notation: quoted texts, numbers, the words `null`,
`true` and `false`, lists in brackets, and maps in braces. An empty file holds no value.

* `readString?`, `readNumber`, `readWord?`: single texts, numbers and words;
* `readValue?`, `readItems?`, `readEntries?`: a value and what follows it;
* `Value.ofText?`.
-/

namespace FeedReader.Config

/-! ### Quoted texts -/

/-- The value of a hexadecimal digit. -/
def hexValue? (c : Char) : Option Nat :=
  if '0' ≤ c ∧ c ≤ '9' then some (c.toNat - '0'.toNat)
  else if 'a' ≤ c ∧ c ≤ 'f' then some (c.toNat - 'a'.toNat + 10)
  else if 'A' ≤ c ∧ c ≤ 'F' then some (c.toNat - 'A'.toNat + 10)
  else none

/-- The number written by hexadecimal digits. -/
def readHex? (t : Text) : Option Nat :=
  t.foldlM (fun n c => (hexValue? c).map (16 * n + ·)) 0

/-- The character that a letter after a backslash stands for. -/
def escaped? : Char → Option Char
  | '"' => some '"'
  | '\\' => some '\\'
  | '/' => some '/'
  | 'b' => some '\x08'
  | 'f' => some '\x0c'
  | 'n' => some '\n'
  | 'r' => some '\r'
  | 't' => some '\t'
  | _ => none

/-- Reads a text up to its closing quote, as code points or halves of pairs of them, and gives back
what follows. -/
def readUnits? : Text → Option (List Nat × Text)
  | [] => none
  | '"' :: t => some ([], t)
  | '\\' :: 'u' :: a :: b :: c :: d :: t => do
    let unit ← readHex? [a, b, c, d]
    let (units, rest) ← readUnits? t
    some (unit :: units, rest)
  | '\\' :: c :: t => do
    let unit ← escaped? c
    let (units, rest) ← readUnits? t
    some (unit.toNat :: units, rest)
  | c :: t => do
    if c.toNat < 32 ∨ c = '\\' then none
    else
      let (units, rest) ← readUnits? t
      some (c.toNat :: units, rest)

/-- The characters of code points, where two halves stand for one character. -/
def joinUnits? : List Nat → Option Text
  | [] => some []
  | a :: b :: rest =>
    if 0xD800 ≤ a ∧ a < 0xDC00 ∧ 0xDC00 ≤ b ∧ b < 0xE000 then
      (joinUnits? rest).map (Char.ofNat (0x10000 + (a - 0xD800) * 0x400 + (b - 0xDC00)) :: ·)
    else if 0xD800 ≤ a ∧ a < 0xE000 then none
    else (joinUnits? (b :: rest)).map (Char.ofNat a :: ·)
  | [a] => if 0xD800 ≤ a ∧ a < 0xE000 then none else some [Char.ofNat a]

/-- Reads a text after its opening quote, and gives back what follows it. -/
def readString? (t : Text) : Option (Text × Text) := do
  let (units, rest) ← readUnits? t
  some (← joinUnits? units, rest)

/-! ### Numbers and words -/

/-- The value of a numeral. Without a fraction and without an exponent it is an integer, with a
fraction a decimal whose exponent, if it has one, has a sign; any other one is a text. -/
def numeral (t : Text) (negative : Bool) (whole : Text) (fraction : Option Text)
    (exponent : Option (Option Bool × Text)) : Value :=
  let sign (n : Nat) : Int := if negative then -n else n
  match fraction, exponent with
  | none, none => .integer (sign (Text.readDigits whole))
  | some f, none => .decimal (sign (Text.readDigits (whole ++ f))) (-f.length)
  | some f, some (some down, e) =>
    let shift : Int := Text.readDigits e
    .decimal (sign (Text.readDigits (whole ++ f))) ((if down then -shift else shift) - f.length)
  | _, _ => .text t

/-- The digits at the start of a text, of which there has to be one. -/
def readSomeDigits? (t : Text) : Option (Text × Text) :=
  match t.takeWhile Char.isDigit with
  | [] => none
  | digits => some (digits, t.dropWhile Char.isDigit)

/-- Reads the fraction of a number, if there is one. -/
def readFraction? : Text → Option (Option Text × Text)
  | '.' :: t => (readSomeDigits? t).map fun (digits, rest) => (some digits, rest)
  | t => some (none, t)

/-- Reads the exponent of a number, if there is one: whether it has a minus or a plus sign, and its
digits. -/
def readExponent? : Text → Option (Option (Option Bool × Text) × Text)
  | c :: t =>
    if c = 'e' ∨ c = 'E' then
      match t with
      | '-' :: t => (readSomeDigits? t).map fun (digits, rest) => (some (some true, digits), rest)
      | '+' :: t => (readSomeDigits? t).map fun (digits, rest) => (some (some false, digits), rest)
      | t => (readSomeDigits? t).map fun (digits, rest) => (some (none, digits), rest)
    else some (none, c :: t)
  | [] => some (none, [])

/-- Reads a number, and gives back what follows it. -/
def readNumber? (t : Text) : Option (Value × Text) := do
  let unsigned := (Text.dropPrefix? "-" t).getD t
  let (whole, rest) ← readSomeDigits? unsigned
  if whole.head? = some '0' ∧ 1 < whole.length then none
  else
    let (fraction, rest) ← readFraction? rest
    let (exponent, rest) ← readExponent? rest
    let written := t.take (t.length - rest.length)
    some (numeral written (t.head? = some '-') whole fraction exponent, rest)

/-- Reads one of the words for values, and gives back what follows it. -/
def readWord? (t : Text) : Option (Value × Text) :=
  ((Text.dropPrefix? "null" t).map (Value.null, ·)).or
    (((Text.dropPrefix? "true" t).map (Value.bool true, ·)).or
      ((Text.dropPrefix? "false" t).map (Value.bool false, ·)))

/-! ### Values -/

/-- The text without the gap it starts with. -/
def skipGap (t : Text) : Text :=
  t.dropWhile fun c => c = ' ' || c = '\t' || c = '\n' || c = '\r'

/-- The entries with one more; a key that is there keeps its place and gets the new value. -/
def putEntry (entries : List (Text × Value)) (key : Text) (v : Value) : List (Text × Value) :=
  if entries.any (·.1 = key) then entries.map fun e => if e.1 = key then (key, v) else e
  else entries ++ [(key, v)]

mutual

/-- Reads a value, and gives back what follows it. -/
def readValue? : Nat → Text → Option (Value × Text)
  | 0, _ => none
  | fuel + 1, t =>
    match skipGap t with
    | '"' :: t => (readString? t).map fun (s, rest) => (.text s, rest)
    | '[' :: t =>
      match skipGap t with
      | ']' :: rest => some (.list [], rest)
      | t => readItems? fuel [] t
    | '\x7b' :: t =>
      match skipGap t with
      | '\x7d' :: rest => some (.map [], rest)
      | t => readEntries? fuel [] t
    | t => (readWord? t).or (readNumber? t)

/-- Reads the items of a list after those already read, and gives back what follows the list. -/
def readItems? : Nat → List Value → Text → Option (Value × Text)
  | 0, _, _ => none
  | fuel + 1, items, t =>
    match readValue? fuel t with
    | none => none
    | some (v, t) =>
      match skipGap t with
      | ',' :: t => readItems? fuel (items ++ [v]) t
      | ']' :: t => some (.list (items ++ [v]), t)
      | _ => none

/-- Reads the entries of a map after those already read, and gives back what follows the map. -/
def readEntries? : Nat → List (Text × Value) → Text → Option (Value × Text)
  | 0, _, _ => none
  | fuel + 1, entries, t =>
    match readValue? fuel t with
    | some (.text key, t) =>
      match skipGap t with
      | ':' :: t =>
        match readValue? fuel t with
        | none => none
        | some (v, t) =>
          match skipGap t with
          | ',' :: t => readEntries? fuel (putEntry entries key v) t
          | '\x7d' :: t => some (.map (putEntry entries key v), t)
          | _ => none
      | _ => none
    | _ => none

end

/-- The value that a configuration file with the given text holds, if it holds one. Each character
is passed at most twice. -/
def Value.ofText? (t : Text) : Option Value :=
  if skipGap t = [] then some .null
  else
    match readValue? (2 * t.length + 2) t with
    | some (v, rest) => if skipGap rest = [] then some v else none
    | none => none

end FeedReader.Config
