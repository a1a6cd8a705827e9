import FeedReader.SortOrder
import FeedReader.Text.Quoted

/-!
# Reading sort orders

A sort order is written as field keywords, each optionally after a direction `<` or `>`; ascending
is the default. Blanks are optional everywhere, so keywords may run together.

* `SortOrder.Token`, `SortOrder.Lexeme`, `SortOrder.tokenize`;
* `SortOrder.Fault`, `SortOrder.Error` with its `message`;
* `SortOrder.read`.
-/

namespace FeedReader.SortOrder

/-! ### Tokens -/

/-- The tokens of a sort order; an error is a single character that begins none. -/
inductive Token
  | direction (direction : SortDirection)
  | field (field : SortField)
  | error
  deriving DecidableEq

/-- A token and where it stands. -/
structure Lexeme where
  token : Token
  start : Nat
  text : Text
  deriving DecidableEq

/-- The characters skipped between tokens. -/
def isGap (c : Char) : Bool := c = ' ' || c = '\t' || c = '\n' || c = '\x0c'

/-- The token at the start of a text that begins with `c`, and its length. -/
def tokenAt (c : Char) (t : Text) : Token × Nat :=
  if c = '<' then (.direction .ascending, 1)
  else if c = '>' then (.direction .descending, 1)
  else
    match SortField.list.find? fun f => f.keyword.isPrefixOf (c :: t) with
    | some f => (.field f, f.keyword.length)
    | none => (.error, 1)

/-- The tokens from a position on. -/
def lexemesFrom (position : Nat) : Text → List Lexeme
  | [] => []
  | c :: t =>
    if isGap c then lexemesFrom (position + 1) t
    else
      let n := (tokenAt c t).2
      ⟨(tokenAt c t).1, position, (c :: t).take n⟩ :: lexemesFrom (position + n) (t.drop (n - 1))
termination_by t => t.length
decreasing_by
  · simp only [List.length_cons]; omega
  · simp only [List.length_drop, List.length_cons]; omega

/-- The tokens of a sort order. -/
def tokenize (t : Text) : List Lexeme := lexemesFrom 0 t

/-! ### Errors -/

/-- What is wrong with a sort order. -/
inductive Fault
  | directionOrKeyExpected
  | keyExpected
  | duplicateKey
  deriving DecidableEq

/-- A fault and the text it was found at. -/
structure Error where
  fault : Fault
  offset : Nat
  fragment : Text
  deriving DecidableEq

/-- The wording of a fault. -/
def Fault.message : Fault → Text
  | directionOrKeyExpected => "order direction (< or >) or key expected"
  | keyExpected => "expecting order key (date, feed, etc.)"
  | duplicateKey => "duplicate key found"

/-- The place of an error in words. -/
def placeText (offset : Nat) (fragment : Text) : Text :=
  " (got " ++ Text.quoted fragment ++ " at " ++ Text.decimal offset ++ ")"

/-- The wording of an error. -/
def Error.message (e : Error) : Text := e.fault.message ++ placeText e.offset e.fragment

/-- An error at a lexeme. -/
def Lexeme.error (x : Lexeme) (f : Fault) : Error := ⟨f, x.start, x.text⟩

/-! ### Reading -/

/-- Adds a key for the field that a lexeme names. -/
def addKey (o : SortOrder) (f : SortField) (d : SortDirection) (x : Lexeme) :
    Except Error SortOrder :=
  match o.push? ⟨f, d⟩ with
  | some o => .ok o
  | none => .error (x.error .duplicateKey)

/-- Reads the keys that follow those of an order; `length` is the length of the whole text. -/
def readKeys (length : Nat) (o : SortOrder) : List Lexeme → Except Error SortOrder
  | [] => .ok o
  | x :: xs =>
    match x.token with
    | .error => .error (x.error .directionOrKeyExpected)
    | .field f => do readKeys length (← addKey o f .ascending x) xs
    | .direction d =>
      match xs with
      | [] => .error ⟨.keyExpected, length, []⟩
      | y :: ys =>
        match y.token with
        | .field f => do readKeys length (← addKey o f d y) ys
        | _ => .error (y.error .keyExpected)

/-- Reads a sort order. -/
def read (t : Text) : Except Error SortOrder := readKeys t.length empty (tokenize t)

end FeedReader.SortOrder
