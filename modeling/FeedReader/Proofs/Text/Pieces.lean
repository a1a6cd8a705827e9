import FeedReader.Proofs.Text.Spacing
import Mathlib.Tactic.SplitIfs

/-!
# Pieces of a text

* `StandsAt`: a piece that stands at a place, with `StandsAt.trans` for a piece of a piece;
* `PointsInto`: a piece that is shown to somebody who looks for it, and is empty at the end only;
* `infix_joinWith_iff`: what stands in texts put together with separators between them;
* `lower_joinWith`: lower case piece by piece;
* `space_not_mem_lower`: no letter becomes a space.
-/

namespace FeedReader.Text

/-! ### Places -/

/-- Whether a piece stands in a text with a number of characters before it. -/
structure StandsAt (t : Text) (offset : Nat) (piece : Text) : Prop where
  within : offset + piece.length ≤ t.length
  slice : (t.drop offset).take piece.length = piece

theorem standsAt_iff {t piece : Text} {offset : Nat} :
    t.StandsAt offset piece ↔ ∃ before after, t = before ++ (piece ++ after) ∧
      before.length = offset := by
  constructor
  · rintro ⟨within, slice⟩
    have split : piece ++ (t.drop offset).drop piece.length = t.drop offset := by
      have parts := List.take_append_drop piece.length (t.drop offset)
      rwa [slice] at parts
    refine ⟨t.take offset, (t.drop offset).drop piece.length, ?_, ?_⟩
    · rw [split, List.take_append_drop]
    · exact List.length_take_of_le (by omega)
  · rintro ⟨before, after, rfl, rfl⟩
    constructor
    · simp only [List.length_append]
      omega
    · rw [List.drop_left, List.take_left]

/-- A piece of a piece. -/
theorem StandsAt.trans {t s piece : Text} {n m : Nat} (outer : t.StandsAt n s)
    (inside : s.StandsAt m piece) : t.StandsAt (n + m) piece := by
  obtain ⟨before, after, rfl, rfl⟩ := standsAt_iff.1 outer
  obtain ⟨before', after', rfl, rfl⟩ := standsAt_iff.1 inside
  exact standsAt_iff.2 ⟨before ++ before', after' ++ after, by simp, List.length_append⟩

theorem standsAt_drop {t : Text} {n : Nat} (le : n ≤ t.length) : t.StandsAt n (t.drop n) :=
  standsAt_iff.2 ⟨t.take n, [], by simp, List.length_take_of_le le⟩

theorem standsAt_take {t : Text} (n : Nat) : t.StandsAt 0 (t.take n) :=
  standsAt_iff.2 ⟨[], t.drop n, by simp, rfl⟩

theorem standsAt_enclosed (a b : Char) (t : Text) : StandsAt (a :: (t ++ [b])) 1 t :=
  standsAt_iff.2 ⟨[a], [b], rfl, rfl⟩

/-- Whether a fragment stands at an offset to point at, and there is none at the end only. -/
structure PointsInto (t : Text) (offset : Nat) (fragment : Text) : Prop
    extends t.StandsAt offset fragment where
  atEnd : fragment = [] → offset = t.length

theorem StandsAt.pointsInto {t fragment : Text} {offset : Nat} (stands : t.StandsAt offset fragment)
    (ne_nil : fragment ≠ []) : t.PointsInto offset fragment where
  toStandsAt := stands
  atEnd := fun nil => absurd nil ne_nil

theorem pointsInto_end (t : Text) : t.PointsInto t.length [] where
  within := Nat.le_refl _
  slice := rfl
  atEnd := fun _ => rfl

/-! ### Separators -/

section Separated

variable {p : Text} {c : Char}

/-- What has no separator in it stands before or behind the separator. -/
theorem infix_append_cons_iff (free : c ∉ p) (s t : Text) :
    p <:+: s ++ c :: t ↔ p <:+: s ∨ p <:+: t := by
  constructor
  · intro h
    rcases List.infix_append_iff.1 h with before | behind | ⟨l, r, rfl, left, right⟩
    · exact .inl before
    · rcases List.infix_cons_iff.1 behind with start | behind
      · rcases List.prefix_cons_iff.1 start with rfl | ⟨r, rfl, -⟩
        · exact .inl List.nil_infix
        · exact absurd List.mem_cons_self free
      · exact .inr behind
    · -- the part on the right starts with the separator, unless it is empty
      rcases List.prefix_cons_iff.1 right with rfl | ⟨r, rfl, -⟩
      · exact .inl (by simpa using left.isInfix)
      · exact absurd (List.mem_append_right l List.mem_cons_self) free
  · rintro (before | behind)
    · exact List.infix_append_of_infix_left before
    · exact List.infix_append_of_infix_right (List.infix_cons behind)

/-- What has no separator in it stands in one of the pieces. -/
theorem infix_joinWith_iff (ne_nil : p ≠ []) (free : c ∉ p) (pieces : List Text) :
    p <:+: joinWith [c] pieces ↔ ∃ piece ∈ pieces, p <:+: piece := by
  induction pieces with
  | nil => simpa [joinWith] using ne_nil
  | cons piece pieces ih =>
    cases pieces with
    | nil => simp [joinWith]
    | cons next pieces =>
      rw [joinWith_cons_cons, List.append_assoc, List.singleton_append,
        infix_append_cons_iff free, ih]
      simp

end Separated

/-! ### Lower case -/

section Lower

variable {c : Char}

/-- Texts with blanks between them in lower case. -/
theorem lower_joinWith (h : isBlank c = true) (pieces : List Text) :
    lower (joinWith [c] pieces) = joinWith [c] (pieces.map lower) := by
  induction pieces with
  | nil => rfl
  | cons piece pieces ih =>
    cases pieces with
    | nil => simp [joinWith]
    | cons next pieces =>
      rw [joinWith_cons_cons, List.append_assoc, List.singleton_append, lower_append_blank h, ih]
      simp only [List.map_cons, joinWith_cons_cons, List.append_assoc, List.singleton_append]

/-- A run that starts beyond a code point stays beyond it. -/
theorem CaseRun.lt_of_find? {runs : List CaseRun} {k n m : Nat}
    (beyond : ∀ run ∈ runs, (k : Int) < run.first + run.shift) (h : find? runs n = some m) :
    k < m := by
  induction runs with
  | nil => simp [find?] at h
  | cons run runs ih =>
    obtain ⟨first, others⟩ := List.forall_mem_cons.1 beyond
    rw [find?] at h
    split_ifs at h with below within step
    · obtain rfl := Option.some.inj h
      omega
    · exact ih others h

theorem space_not_mem_lowerChar (other : c ≠ ' ') : ' ' ∉ lowerChar c := by
  unfold lowerChar
  split
  · decide
  · cases found : CaseRun.find? lowerRuns c.toNat with
    | none => simpa using other.symm
    | some n =>
      have beyond : ∀ run ∈ lowerRuns, (' '.toNat : Int) < run.first + run.shift := by
        decide +kernel
      have lt := CaseRun.lt_of_find? beyond found
      simp only [Option.elim_some, List.mem_singleton]
      intro same
      by_cases valid : n.isValidChar
      · have codes := congrArg Char.toNat same
        rw [Char.ofNat, Char.ofNat, dif_pos valid] at codes
        exact Nat.ne_of_lt lt codes
      · rw [Char.ofNat, Char.ofNat, dif_neg valid] at same
        exact absurd same (by decide)

/-- No letter becomes a space. -/
theorem space_not_mem_lower {t : Text} (h : ' ' ∉ t) : ' ' ∉ lower t := by
  suffices all : ∀ before, ' ' ∉ lowerAfter before t from all false
  induction t with
  | nil => exact fun _ => List.not_mem_nil
  | cons c t ih =>
    intro before
    obtain ⟨first, rest⟩ := List.ne_and_not_mem_of_not_mem_cons h
    rw [lowerAfter, List.mem_append, not_or]
    refine ⟨?_, ih rest _⟩
    split
    · split <;> decide
    · exact space_not_mem_lowerChar (Ne.symm first)

theorem lower_ne_nil {t : Text} (h : t ≠ []) : lower t ≠ [] := by
  obtain ⟨c, s, rfl⟩ := List.exists_cons_of_ne_nil h
  rw [lower, lowerAfter]
  unfold lowerChar
  split_ifs <;> simp

end Lower

end FeedReader.Text
