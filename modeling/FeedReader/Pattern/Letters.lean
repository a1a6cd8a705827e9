import FeedReader.Text.CaseTable

/-!
# Letters that differ in case only

* `lowerCode`: the single lower-case form of a code point;
* `likeLowers`: lower-case letters that share their upper-case form;
* `lowerMates`, `upperMates`: the lower-case letters that count as the same, and the letters that
  have a given lower-case form;
* `caseMates`: all letters that differ from a given one in case only.
-/

namespace FeedReader.Pattern

open Text

/-- The lower-case form of a code point, as one code point. -/
def lowerCode (n : Nat) : Nat := if n = 0x130 then 0x69 else (CaseRun.find? lowerRuns n).getD n

/-- The groups of lower-case letters that share their upper-case form. -/
def likeLowers : List (List Nat) :=
  [[105, 305], [115, 383], [181, 956], [837, 953, 8126], [912, 8147], [944, 8163], [946, 976],
   [949, 1013], [952, 977], [954, 1008], [960, 982], [961, 1009], [962, 963], [966, 981],
   [1074, 7296], [1076, 7297], [1086, 7298], [1089, 7299], [1090, 7300, 7301], [1098, 7302],
   [1123, 7303], [7304, 42571], [7777, 7835], [64261, 64262]]

/-- The lower-case letters that count as the same letter as a lower-case one. -/
def lowerMates (n : Nat) : List Nat := (likeLowers.find? (·.contains n)).getD [n]

/-- The code points whose lower-case form is `n`. -/
def upperMates (n : Nat) : List Nat :=
  (if n = 0x69 then [0x130] else []) ++ lowerRuns.filterMap fun run =>
    let source := ((n : Int) - run.shift).toNat
    if run.first ≤ source && source ≤ run.last && (source - run.first) % run.step = 0 then
      some source
    else none

/-- The letters that differ from a code point in case only, itself included. -/
def caseMates (n : Nat) : List Nat :=
  n :: (lowerMates (lowerCode n)).flatMap fun l => l :: upperMates l

end FeedReader.Pattern
