/-!
# Ranges of code points

* `Ranges`: ascending ranges, each given by its first and its last code point;
* `Ranges.contains`, which stops at the first range that begins beyond the code point;
* `Ranges.startOf?`, the first code point of the range that holds the given one.
-/

namespace FeedReader.Text

/-- Ascending ranges of code points, given by their ends. -/
abbrev Ranges := List (Nat × Nat)

namespace Ranges

/-- The first code point of the range that holds `n`. -/
def startOf? : Ranges → Nat → Option Nat
  | [], _ => none
  | (first, last) :: rest, n =>
    if n < first then none else if n ≤ last then some first else startOf? rest n

/-- Whether a character lies in one of the ranges. -/
def contains (ranges : Ranges) (c : Char) : Bool := (startOf? ranges c.toNat).isSome

end Ranges

end FeedReader.Text
