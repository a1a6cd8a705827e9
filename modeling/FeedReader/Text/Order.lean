import FeedReader.Text.Basic

/-!
# The order of texts

Texts are ordered code point by code point, and a text comes before its continuations. A missing
text comes before every text.

* `compare`, `compareOption`.
-/

namespace FeedReader.Text

/-- The order of two texts. -/
def compare : Text → Text → Ordering
  | [], [] => .eq
  | [], _ :: _ => .lt
  | _ :: _, [] => .gt
  | a :: s, b :: t => if a < b then .lt else if b < a then .gt else compare s t

theorem compare_swap (s t : Text) : (compare s t).swap = compare t s := by
  induction s generalizing t with
  | nil => cases t <;> rfl
  | cons a s ih =>
    cases t with
    | nil => rfl
    | cons b t =>
      simp only [compare]
      by_cases h : a < b
      · simp [h, Char.lt_asymm h]
      · by_cases h' : b < a <;> simp [h, h', ih]

/-- The order of two texts either of which may be missing. -/
def compareOption : Option Text → Option Text → Ordering
  | none, none => .eq
  | none, some _ => .lt
  | some _, none => .gt
  | some s, some t => compare s t

theorem compareOption_swap (s t : Option Text) : (compareOption s t).swap = compareOption t s := by
  cases s <;> cases t <;> simp [compareOption, compare_swap]

end FeedReader.Text
