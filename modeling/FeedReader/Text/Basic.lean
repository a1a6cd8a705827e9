/-!
# Texts

A text is a list of code points, so that every position, length and offset counts code points and
every function on it is a recursion on a list.

* `Text`, with string literals read as texts;
* `Text.dropPrefix?`, `Text.occursIn`, `Text.splitAtEach`, `Text.joinWith`, `Text.nonempty?`;
* `Text.decimal` and `Text.padded`, the two ways in which a number is written.
-/

namespace FeedReader

/-- A sequence of code points. -/
abbrev Text := List Char

instance : Coe String Text := ⟨String.toList⟩

namespace Text

/-! ### Parts of a text -/

/-- What follows `p` in a text that starts with it. -/
def dropPrefix? : Text → Text → Option Text
  | [], t => some t
  | _ :: _, [] => none
  | a :: p, b :: t => if a = b then dropPrefix? p t else none

theorem dropPrefix?_eq_some_iff {p t r : Text} : dropPrefix? p t = some r ↔ t = p ++ r := by
  induction p generalizing t with
  | nil => simp [dropPrefix?, eq_comm]
  | cons a p ih =>
    cases t with
    | nil => simp [dropPrefix?]
    | cons b t =>
      by_cases h : a = b
      · simp [dropPrefix?, h, ih]
      · simp [dropPrefix?, h, Ne.symm h]

/-- Whether `p` stands somewhere in a text. -/
def occursIn (p : Text) : Text → Bool
  | [] => p.isEmpty
  | c :: t => p.isPrefixOf (c :: t) || occursIn p t

/-- A text occurs in another exactly if it is one of its infixes. -/
theorem occursIn_iff {p t : Text} : occursIn p t = true ↔ p <:+: t := by
  induction t with
  | nil => simp [occursIn]
  | cons c t ih => simp [occursIn, ih, List.infix_cons_iff]

/-- The pieces between the places where `sep` stands; there is always at least one. -/
def splitAtEach (sep : Char) : Text → List Text
  | [] => [[]]
  | c :: t =>
    if c = sep then [] :: splitAtEach sep t
    else
      match splitAtEach sep t with
      | [] => [[c]]
      | piece :: pieces => (c :: piece) :: pieces

/-- The texts one after the other, with `sep` between neighbours. -/
def joinWith (sep : Text) (pieces : List Text) : Text := sep.intercalate pieces

/-- The text, unless it is empty. -/
def nonempty? (t : Text) : Option Text := if t = [] then none else some t

theorem nonempty?_eq_some_iff {t u : Text} : nonempty? t = some u ↔ t ≠ [] ∧ t = u := by
  unfold nonempty?
  split <;> simp_all

/-- All but the first and the last code point. -/
def inner (t : Text) : Text := (t.drop 1).dropLast

@[simp] theorem inner_enclosed (a b : Char) (t : Text) : inner (a :: (t ++ [b])) = t := by
  simp [inner]

/-! ### Numbers -/

/-- The decimal digit of a number below ten. -/
def digit (n : Nat) : Char := Char.ofNat ('0'.toNat + n)

/-- A number in decimal, without leading zeros. -/
def decimal (n : Nat) : Text := Nat.toDigits 10 n

/-- An integer in decimal, with a minus sign before a negative one. -/
def decimalInt : Int → Text
  | .ofNat n => decimal n
  | .negSucc n => '-' :: decimal (n + 1)

/-- The last `width` decimal digits of a number. -/
def padded : Nat → Nat → Text
  | 0, _ => []
  | width + 1, n => padded width (n / 10) ++ [digit (n % 10)]

@[simp] theorem length_padded (width n : Nat) : (padded width n).length = width := by
  induction width generalizing n with
  | zero => rfl
  | succ width ih => simp [padded, ih]

end Text

end FeedReader
