import FeedReader.Command.Reader

/-!
# Commands within commands

A line may start with `confirm` and with `in` and a panel, any number of times, and the command
behind each of them is read while the one around it is still being read. There is room for that only
so many times.

* `behind?`: the line from which the command within the command of a line is read;
* `nesting`, `nestingLimit`: how many commands a line has around its innermost one, and for how many
  there is room;
* `bounded`: the result of an operation that reads a line, if there is room for it;
* `readBounded`: reading a line within the limit.
-/

namespace FeedReader.Command

/-- What stands behind the `confirm`, or the `in` and the panel, that a line starts with. -/
def behind? (t : Text) : Option Text :=
  match Text.splitWord t with
  | none => none
  | some (word, rest) =>
    match (Kind.ofKeyword? word).map Kind.shape with
    | some .command => Text.nonempty? rest
    | some .panelCommand =>
      match readPanel rest with
      | .error _ => none
      | .ok (_, tail) => Text.nonempty? tail
    | _ => none

theorem length_of_behind? {t u : Text} (h : behind? t = some u) : u.length < t.length := by
  unfold behind? at h
  split at h
  · cases h
  · next word rest found =>
    have shorter := Text.length_of_splitWord found
    split at h
    · obtain ⟨-, rfl⟩ := Text.nonempty?_eq_some_iff.1 h
      exact shorter
    · split at h
      · cases h
      · next panel tail read =>
        obtain ⟨-, rfl⟩ := Text.nonempty?_eq_some_iff.1 h
        exact Nat.lt_trans (length_of_readKeyword read) shorter
    · cases h

/-- How many commands a line has around its innermost one. -/
def nesting (t : Text) : Nat :=
  match _h : behind? t with
  | none => 0
  | some u => nesting u + 1
termination_by t.length
decreasing_by exact length_of_behind? _h

/-- The most commands that there is room for around another one. It stands for the end of the stack
of calls, of which each of them takes two, and not for a number of bytes. -/
def nestingLimit : Nat := 480

section Bounded

variable {ε α : Type} {tooDeep : ε} {t : Text}

/-- What comes of an operation that reads a line, if there is room for the commands in it. -/
@[inline] def bounded (tooDeep : ε) (t : Text) (result : Except ε α) : Except ε α :=
  if nesting t ≤ nestingLimit then result else .error tooDeep

theorem bounded_of_le (h : nesting t ≤ nestingLimit) (result : Except ε α) :
    bounded tooDeep t result = result :=
  if_pos h

end Bounded

/-- Reads a command line, if there is room for that. -/
def readBounded (mode : Mode) (now : Moment) (t : Text) : Result Command :=
  bounded (.mishap .tooDeep) t (read mode now t)

end FeedReader.Command
