import FeedReader.Text.Order
import Mathlib.Algebra.Group.Nat.Defs

/-!
# The order of texts is a linear order

* `then_compare_eq`: comparing numbers in two steps;
* `Text.compare_eq_compareLex`: texts are ordered as lists of characters, so that `Text.compare` and
  `Text.compareOption` are lawful comparisons;
* `Text.compare_append`: texts that start with parts of one length;
* `Text.compare_padded`: numbers of a fixed width are ordered like the numbers.
-/

namespace FeedReader

/-! ### Comparing in two steps -/

/-- What is compared first decides unless it is the same. -/
theorem then_compare_eq {a b a' b' : Nat} {o : Ordering} (lt : a < b → a' < b')
    (gt : b < a → b' < a') (eq : a = b → o = compare a' b') :
    (compare a b).then o = compare a' b' := by
  rcases Nat.lt_trichotomy a b with h | h | h
  · rw [Nat.compare_eq_lt.2 h, Nat.compare_eq_lt.2 (lt h), Ordering.lt_then]
  · rw [Nat.compare_eq_eq.2 h, eq h, Ordering.eq_then]
  · rw [Nat.compare_eq_gt.2 h, Nat.compare_eq_gt.2 (gt h), Ordering.gt_then]

theorem compare_add_left (n a b : Nat) : compare (n + a) (n + b) = compare a b := by
  simp [Nat.compare_eq_ite_lt]

/-- Numbers that are the same distance off are ordered alike. -/
theorem compare_sub {a b n : Nat} (ha : n ≤ a) (hb : n ≤ b) :
    compare (a - n) (b - n) = compare a b := by
  rw [← compare_add_left n, Nat.add_sub_cancel' ha, Nat.add_sub_cancel' hb]

/-- Quotients decide before remainders. -/
theorem compare_div_then_mod (k a b : Nat) :
    (compare (a / k) (b / k)).then (compare (a % k) (b % k)) = compare a b := by
  have quotient {a b : Nat} (h : a / k < b / k) : a < b :=
    Nat.lt_of_not_le fun le => absurd h (Nat.not_lt_of_le (Nat.div_le_div_right le))
  refine then_compare_eq quotient quotient fun same => ?_
  rw [← compare_add_left (k * (a / k)), Nat.div_add_mod, same, Nat.div_add_mod]

namespace Text

/-! ### Texts as lists of characters -/

theorem compare_cons (a b : Char) (s t : Text) :
    compare (a :: s) (b :: t) = (Ord.compare a b).then (compare s t) := by
  by_cases lt : a < b
  · simp [compare, Ord.compare, compareOfLessAndEq, lt]
  · by_cases gt : b < a
    · have ne : a ≠ b := by
        rintro rfl
        exact lt gt
      simp [compare, Ord.compare, compareOfLessAndEq, lt, gt, ne]
    · have eq : a = b := Char.le_antisymm (Char.not_lt.1 gt) (Char.not_lt.1 lt)
      simp [compare, Ord.compare, compareOfLessAndEq, eq]

theorem compare_eq_compareLex (s t : Text) :
    compare s t = List.compareLex (fun a b : Char => Ord.compare a b) s t := by
  induction s generalizing t with
  | nil => cases t <;> simp [compare, List.compareLex_nil_nil, List.compareLex_nil_cons]
  | cons a s ih =>
    cases t with
    | nil => simp [compare, List.compareLex_cons_nil]
    | cons b t => rw [compare_cons, List.compareLex_cons_cons, ih]

theorem compare_eq : compare = List.compareLex fun a b : Char => Ord.compare a b := by
  funext s t
  exact compare_eq_compareLex s t

instance : Std.TransCmp compare := by rw [compare_eq]; infer_instance

instance : Std.LawfulEqCmp compare := by rw [compare_eq]; infer_instance

theorem compare_self (t : Text) : compare t t = .eq := Std.ReflCmp.compare_self

instance : Std.TransCmp compareOption where
  eq_swap {s t} := (compareOption_swap t s).symm
  isLE_trans {s t u} hst htu := by
    cases s <;> cases t <;> cases u <;> simp_all [compareOption]
    exact Std.TransCmp.isLE_trans hst htu

instance : Std.LawfulEqCmp compareOption where
  compare_self {s} := by cases s <;> simp [compareOption, compare_self]
  eq_of_compare {s t} h := by
    cases s <;> cases t <;> simp_all [compareOption]

/-! ### Texts of a fixed width -/

theorem compare_append {s t : Text} (h : s.length = t.length) (s' t' : Text) :
    compare (s ++ s') (t ++ t') = (compare s t).then (compare s' t') := by
  induction s generalizing t with
  | nil =>
    obtain rfl := List.length_eq_zero_iff.1 h.symm
    rfl
  | cons a s ih =>
    cases t with
    | nil => simp at h
    | cons b t =>
      rw [List.cons_append, List.cons_append, compare_cons, compare_cons, ih (by simpa using h),
        Ordering.then_assoc]

theorem compare_digit {a b : Nat} (ha : a < 10) (hb : b < 10) :
    compare [digit a] [digit b] = Ord.compare a b := by
  have all : ∀ a < 10, ∀ b < 10, compare [digit a] [digit b] = Ord.compare a b := by decide
  exact all a ha b hb

/-- Numbers written in one width are ordered like the numbers. -/
theorem compare_padded {width a b : Nat} (ha : a < 10 ^ width) (hb : b < 10 ^ width) :
    compare (padded width a) (padded width b) = Ord.compare a b := by
  induction width generalizing a b with
  | zero =>
    obtain rfl : a = 0 := by omega
    obtain rfl : b = 0 := by omega
    rfl
  | succ width ih =>
    rw [Nat.pow_succ] at ha hb
    rw [padded, padded, compare_append (by simp), ih (by omega) (by omega),
      compare_digit (Nat.mod_lt _ (by decide)) (Nat.mod_lt _ (by decide)), compare_div_then_mod]

end Text

end FeedReader
