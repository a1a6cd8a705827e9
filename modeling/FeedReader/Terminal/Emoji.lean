import FeedReader.Terminal.Emoji.Names
import FeedReader.Text.Blank
import FeedReader.Text.Case

/-!
# Emoji by name

In text for the terminal the name of an emoji stands between two colons: `:rocket:`. After the name
`-emoji` or `-text` may ask for the colored or the plain form. A name that is unknown stays as it is
written, with both of its colons.

* `Emoji.find?`: the emoji of a name;
* `Emoji.shown?`: the emoji of a name in the form asked for;
* `Emoji.replace`: the text with emoji in place of their names.
-/

namespace FeedReader.Terminal.Emoji

/-- The emoji in an entry of the table, if the entry is that of a name. -/
def emojiIn? (name entry : Text) : Option Text :=
  (Text.dropPrefix? name entry).bind (Text.dropPrefix? "=")

/-- The emoji of a name in lower case. -/
def find? (name : Text) : Option Text :=
  rows.findSome? fun row => (Text.words row.toList).findSome? (emojiIn? name)

/-- The text before an ending. -/
def dropEnding? (ending t : Text) : Option Text :=
  (Text.dropPrefix? ending.reverse t.reverse).map List.reverse

/-- The emoji of a name in any case of letters, with the mark of the form that is asked for. -/
def shown? (name : Text) : Option Text :=
  match dropEnding? "-emoji" name, dropEnding? "-text" name with
  | some name, _ => (find? (Text.lower name)).map (· ++ ['\ufe0f'])
  | none, some name => (find? (Text.lower name)).map (· ++ ['\ufe0e'])
  | none, none => find? (Text.lower name)

/-- The name at the start of a text, and what follows the colon that ends it. -/
def nameAt? (t : Text) : Option (Text × Text) :=
  let name := t.takeWhile fun c => c ≠ ':' && !Text.isBlank c
  (Text.dropPrefix? ":" (t.drop name.length)).map (name, ·)

theorem length_of_nameAt? {t name rest : Text} (h : nameAt? t = some (name, rest)) :
    rest.length < t.length := by
  obtain ⟨s, hs, hp⟩ := Option.map_eq_some_iff.1 h
  have := congrArg List.length (Text.dropPrefix?_eq_some_iff.1 hs)
  simp only [Prod.mk.injEq] at hp
  have colon : ":".toList.length = 1 := by decide
  simp only [List.length_drop, List.length_append, colon] at this
  rw [← hp.2]
  omega

/-- The text with emoji in place of their names. -/
def replace (t : Text) : Text :=
  match t with
  | [] => []
  | c :: s =>
    if c = ':' then
      match _h : nameAt? s with
      | some (name, rest) => (shown? name).getD (':' :: (name ++ [':'])) ++ replace rest
      | none => ':' :: replace s
    else c :: replace s
termination_by t.length
decreasing_by
  · exact Nat.lt_succ_of_lt (length_of_nameAt? _h)
  · simp
  · simp

end FeedReader.Terminal.Emoji
