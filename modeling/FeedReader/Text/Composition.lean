import FeedReader.Text.Composite

/-!
# Composed characters

A letter with marks can be written in several ways. In the composed form every mark that can be is
part of its letter, and the marks that are left stand in the order of their classes.

* `partsOf`: the letter and the marks that a composite character stands for;
* `ordered`: marks in the order of their classes;
* `pair?`, `composed`: two characters as one, and all that can be;
* `isComposed`: whether a sequence of code points is in the composed form.
-/

namespace FeedReader.Text

/-! ### Syllables of the Korean script, which are composed by rule -/

/-- The first syllable. -/
def firstSyllable : Nat := 0xAC00

/-- The code points before the first vowel and the first final consonant, and the first initial
consonant. -/
def syllableParts : Nat × Nat × Nat := (0x1100, 0x1161, 0x11A7)

/-- The letters of a syllable. -/
def lettersOfSyllable? (n : Nat) : Option (List Nat) :=
  let (initials, vowels, finals) := syllableParts
  if firstSyllable ≤ n && n < firstSyllable + 11172 then
    let k := n - firstSyllable
    let start := [initials + k / 588, vowels + k % 588 / 28]
    some (if k % 28 = 0 then start else start ++ [finals + k % 28])
  else none

/-- The syllable of two letters, or of a syllable without a final consonant and one. -/
def syllable? (a b : Nat) : Option Nat :=
  let (initials, vowels, finals) := syllableParts
  if initials ≤ a && a < initials + 19 && vowels ≤ b && b < vowels + 21 then
    some (firstSyllable + (a - initials) * 588 + (b - vowels) * 28)
  else if firstSyllable ≤ a && a < firstSyllable + 11172 && (a - firstSyllable) % 28 = 0 &&
      finals < b && b < finals + 28 then
    some (a + (b - finals))
  else none

/-! ### Taking apart and putting together -/

/-- The character and the mark of which a composite one consists. -/
def composite? (n : Nat) : Option (Nat × Nat) := (composites.find? (·.1 = n)).map (·.2)

/-- What a code point stands for; composites are nested at most as deep as the first argument
says. -/
def partsOf : Nat → Nat → List Nat
  | 0, n => [n]
  | depth + 1, n =>
    match lettersOfSyllable? n, composite? n with
    | some letters, _ => letters
    | none, some (a, b) => partsOf depth a ++ [b]
    | none, none => [n]

/-- The depth of the deepest composite. -/
def compositeDepth : Nat := 4

/-- Puts a code point before others, after the marks with a smaller class. -/
def putMark (n : Nat) : List Nat → List Nat
  | [] => [n]
  | m :: rest =>
    if 0 < combiningClass m && combiningClass m < combiningClass n then m :: putMark n rest
    else n :: m :: rest

/-- The marks in the order of their classes. -/
def ordered (codes : List Nat) : List Nat := codes.foldr putMark []

/-- The character that two others make up. -/
def pair? (a b : Nat) : Option Nat :=
  match syllable? a b with
  | some n => some n
  | none => (composites.find? fun c => c.2.1 = a && c.2.2 = b).map (·.1)

/-- Composes a character with what follows it. `between` holds the marks that have been left, the
last one first: a mark can be part of the character unless one of its own class is left before
it. -/
def composeAfter (first : Nat) (between : List Nat) : List Nat → List Nat
  | [] => first :: between.reverse
  | n :: rest =>
    let isFree := (between.head?).all fun m => combiningClass m < combiningClass n
    match if isFree then pair? first n else none with
    | some whole => composeAfter whole between rest
    | none =>
      if combiningClass n = 0 then first :: (between.reverse ++ composeAfter n [] rest)
      else composeAfter first (n :: between) rest

/-- Composes what can be composed. -/
def composed : List Nat → List Nat
  | [] => []
  | n :: rest => if combiningClass n = 0 then composeAfter n [] rest else n :: composed rest

/-- Whether a sequence of code points is in the composed form. -/
def isComposed (codes : List Nat) : Bool :=
  !(codes.any fun n => (replaced.startOf? n).isSome) &&
    composed (ordered (codes.flatMap (partsOf compositeDepth))) = codes

end FeedReader.Text
