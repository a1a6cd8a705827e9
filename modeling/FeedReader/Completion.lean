import FeedReader.Text.Basic

/-!
# Cycling through completions

* `Completion.candidates`: the completions that begin with what has been typed;
* `Completion.step`: the next or the previous candidate, going around at the ends.
-/

namespace FeedReader.Completion

/-- The ways to go through completions. -/
inductive Direction
  | forward
  | backward
  deriving DecidableEq

/-- The completions that begin with what has been typed. -/
def candidates (completions : List Text) (typed : Text) : List Text :=
  completions.filter fun c => typed.isPrefixOf c

/-- The place after or before a place in a list of `n`, going around at the ends. -/
def Direction.move (n i : Nat) : Direction → Nat
  | forward => (i + 1) % n
  | backward => (i + n - 1) % n

/-- The word that follows the current one: the neighbour of the first candidate equal to it, or the
first candidate if it is none. -/
def step (completions : List Text) (typed : Text) (direction : Direction) (current : Text) : Text :=
  let found := candidates completions typed
  match found.idxOf? current with
  | some i => found[direction.move found.length i]?.getD current
  | none => found.head?.getD current

end FeedReader.Completion
