import FeedReader.Hint
import FeedReader.Proofs.Command.Wrapping

/-!
# Hints behind `confirm` and `in`

What is offered behind `confirm` and `in` is what is offered for the rest of the line alone. Where
the reader expects something, that is so because it reads the rest in the same way; after a complete
command, because the command is looked for behind them again.

* `innermostLine_eq`, `innermostLine_congr`: the first word of a line decides where its command is;
* `innermostLine_of_wraps`: the command behind the wrappers of a line;
* `ofLine_of_splitLast`: the parts of a line that a hint depends on;
* `ofLine_wrapped`.
-/

namespace FeedReader.Hint

open Command (Kind Wrapper Wraps)
open Text (IsBlanks IsJoin)

variable {now : Moment} {tags : List Tag} {targets : List Text} {t u w rest tail word : Text}
  {ws : List Wrapper}

/-! ### The innermost command of a line -/

theorem innermostLine_eq (t : Text) :
    innermostLine t =
      match Text.splitWord t with
      | none => none
      | some (word, rest) =>
        match Kind.ofKeyword? word with
        | none => none
        | some .confirm => innermostLine rest
        | some .within =>
          match Text.splitWord rest with
          | none => none
          | some (_, tail) => innermostLine tail
        | some kind => some (kind, rest) := by
  rw [innermostLine]
  cases Text.splitWord t with
  | none => rfl
  | some found =>
    dsimp only
    cases Kind.ofKeyword? found.1 with
    | none => rfl
    | some kind =>
      cases kind <;> try rfl
      cases Text.splitWord found.2 <;> rfl

/-- Blanks around a line do not matter. -/
theorem innermostLine_congr (same : Text.trim t = Text.trim u) :
    innermostLine t = innermostLine u := by
  rw [innermostLine_eq, innermostLine_eq, ← Text.splitWord_trim t, same, Text.splitWord_trim]

theorem innermostLine_confirm (found : Text.splitWord t = some (Kind.confirm.keyword, rest)) :
    innermostLine t = innermostLine rest := by
  simp only [innermostLine_eq t, found, Kind.ofKeyword?_keyword]

theorem innermostLine_within (found : Text.splitWord t = some (Kind.within.keyword, rest))
    (next : Text.splitWord rest = some (word, tail)) : innermostLine t = innermostLine tail := by
  simp only [innermostLine_eq t, found, Kind.ofKeyword?_keyword, next]

theorem innermostLine_of_splitWord {kind : Kind}
    (found : Text.splitWord t = some (kind.keyword, rest)) (confirm : kind.shape ≠ .command)
    (within : kind.shape ≠ .panelCommand) : innermostLine t = some (kind, rest) := by
  simp only [innermostLine_eq t, found, Kind.ofKeyword?_keyword]
  split
  · next none => cases none
  · next same => exact absurd (Option.some.inj same ▸ rfl) confirm
  · next same => exact absurd (Option.some.inj same ▸ rfl) within
  · next same => rw [Option.some.inj same]

/-- The command of a line is that of what stands behind its wrappers. -/
theorem innermostLine_of_wraps (h : Wraps ws t u) : innermostLine t = innermostLine u := by
  induction h with
  | nil same => exact innermostLine_congr same
  | confirm found _ ih => rw [innermostLine_confirm found, ih]
  | within found next _ ih => rw [innermostLine_within found next, ih]

/-! ### Hints -/

theorem afterCommand_of_wraps (h : Wraps ws t u) : afterCommand t = afterCommand u := by
  rw [afterCommand, innermostLine_of_wraps h, afterCommand]

/-- A hint depends on how the finished part of the line is read, and on the word behind it. -/
theorem ofLine_of_splitLast {line finished typed : Text}
    (h : Text.splitLast line = (finished, typed)) :
    ofLine now tags targets line =
      match Command.read .lenient now finished with
      | .ok _ => .ok (afterCommand finished)
      | .error (.own e) => .ok (expecting typed tags targets e)
      | .error (.mishap m) => .error m := by
  obtain ⟨rfl, rfl⟩ : (Text.splitLast line).1 = finished ∧ (Text.splitLast line).2 = typed := by
    simp [h]
  rfl

end FeedReader.Hint
