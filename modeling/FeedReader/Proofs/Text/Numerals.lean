import FeedReader.Text.Digits
import Mathlib.Algebra.Group.Nat.Defs
import Mathlib.Data.Bool.AllAny

/-!
# Numbers of a fixed width

* `numerals`: the ten digits that numbers are written with;
* `IsNumeral`: a sequence of them that is not empty, and `isNumeral_padded`;
* `readDigits_padded`: a number is read from its last digits if it has no more.
-/

namespace FeedReader.Text

/-- The digits that numbers are written with. -/
def numerals : Text := ['0', '1', '2', '3', '4', '5', '6', '7', '8', '9']

/-- Whether a text is a written number. -/
def IsNumeral (t : Text) : Prop := t ≠ [] ∧ ∀ c ∈ t, c ∈ numerals

theorem digit_mem_numerals {d : Nat} (h : d < 10) : digit d ∈ numerals := by
  have all : ∀ d < 10, digit d ∈ numerals := by decide
  exact all d h

theorem isDigit_of_mem {c : Char} (h : c ∈ numerals) : isDigit c = true := by
  have all : ∀ c ∈ numerals, isDigit c = true := List.all_iff_forall_prop.1 (by decide)
  exact all c h

theorem IsNumeral.isDigit {t : Text} (h : IsNumeral t) : ∀ c ∈ t, isDigit c = true :=
  fun c hc => isDigit_of_mem (h.2 c hc)

theorem isAlpha_of_mem {c : Char} (h : c ∈ numerals) : c.isAlpha = false := by
  have all : ∀ c ∈ numerals, c.isAlpha = false := List.all_iff_forall_prop.1 (by decide)
  exact all c h

theorem mem_padded {width n : Nat} : ∀ c ∈ padded width n, c ∈ numerals := by
  induction width generalizing n with
  | zero => exact List.forall_mem_nil _
  | succ width ih =>
    rw [padded]
    exact List.forall_mem_append.2
      ⟨ih, List.forall_mem_singleton.2 (digit_mem_numerals (Nat.mod_lt _ (by decide)))⟩

theorem isNumeral_padded {width : Nat} (pos : 0 < width) (n : Nat) :
    IsNumeral (padded width n) :=
  ⟨List.ne_nil_of_length_pos (by rwa [length_padded]), mem_padded⟩

theorem readDigits_concat (t : Text) {d : Nat} (h : d < 10) :
    readDigits (t ++ [digit d]) = 10 * readDigits t + d := by
  have all : ∀ d < 10, digitValue? (digit d) = some d := by decide
  simp [readDigits, List.foldl_append, all d h]

/-- A number is read from its last digits if it has no more. -/
theorem readDigits_padded {width n : Nat} (h : n < 10 ^ width) :
    readDigits (padded width n) = n := by
  induction width generalizing n with
  | zero =>
    obtain rfl : n = 0 := by simpa using h
    rfl
  | succ width ih =>
    rw [Nat.pow_succ] at h
    rw [padded, readDigits_concat _ (Nat.mod_lt n (by decide)), ih (by omega)]
    omega

end FeedReader.Text
