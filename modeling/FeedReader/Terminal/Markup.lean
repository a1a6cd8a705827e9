import FeedReader.Terminal.Emoji
import FeedReader.Text.Blank
import FeedReader.Text.Case

/-!
# Markup in text for the terminal

Text that is shown in tables and messages may hold style tags in square brackets. `[name]` opens a
style, `[/name]` closes the one of that name, and `[/]` closes the last one. A backslash takes a tag
its meaning. The styles themselves do not show. Emoji may be given by their names.

* `Markup.tagAt?`, `Markup.pieces`: the tags of a text and what stands between them;
* `Markup.close?`, `Markup.show?`;
* `Terminal.plain?`: the text as it is shown; nothing if a tag closes a style that is not open.
-/

namespace FeedReader.Terminal

namespace Markup

/-! ### Tags -/

/-- A stretch of text, or the content of a tag. -/
inductive Piece
  | text (text : Text)
  | tag (content : Text)
  deriving DecidableEq

/-- Whether a character can begin the content of a tag. -/
def startsTag (c : Char) : Bool := ('a' ≤ c && c ≤ 'z') || c = '#' || c = '/' || c = '@'

/-- The content of the tag at the start of a text, and what follows the tag. -/
def tagAt? : Text → Option (Text × Text)
  | '[' :: c :: t =>
    let content := t.takeWhile fun d => d ≠ ']' && d ≠ '['
    match t.drop content.length with
    | ']' :: rest => if startsTag c then some (c :: content, rest) else none
    | _ => none
  | _ => none

theorem length_of_tagAt? {t content rest : Text} (h : tagAt? t = some (content, rest)) :
    rest.length < t.length := by
  unfold tagAt? at h
  split at h
  · next c s =>
    dsimp only at h
    split at h
    · next rest' drop =>
      have := congrArg List.length drop
      simp only [List.length_drop, List.length_cons] at this
      split at h
      · simp only [Option.some.injEq, Prod.mk.injEq] at h
        rw [← h.2]
        simp only [List.length_cons]
        omega
      · simp at h
    · simp at h
  · simp at h

/-- The pieces of a text. Of backslashes before a tag each pair stands for one, and a last one makes
the tag plain text. -/
def pieces (t : Text) : List Piece :=
  match t with
  | [] => []
  | c :: s =>
    let slashes := (c :: s).takeWhile (· = '\\')
    match _h : tagAt? ((c :: s).drop slashes.length) with
    | some (content, rest) =>
      let before := slashes.take (slashes.length / 2)
      if slashes.length % 2 = 1 then
        .text before :: .text ('[' :: (content ++ [']'])) :: pieces rest
      else .text before :: .tag content :: pieces rest
    | none =>
      match pieces s with
      | .text u :: rest => .text (c :: u) :: rest
      | rest => .text [c] :: rest
termination_by t.length
decreasing_by
  · have := length_of_tagAt? _h
    simp only [List.length_drop, List.length_cons] at this ⊢
    omega
  · have := length_of_tagAt? _h
    simp only [List.length_drop, List.length_cons] at this ⊢
    omega
  · simp

/-! ### Styles -/

/-- The name of a style, by which a tag that closes it finds it. -/
def styleName (t : Text) : Text := Text.lower (Text.trim t)

/-- The open styles, the last one first, after one has been closed. -/
def close? (name : Text) (styles : List Text) : Option (List Text) :=
  if name = [] then
    match styles with
    | [] => none
    | _ :: rest => some rest
  else if styles.contains name then some (styles.erase name)
  else none

/-- The text without the backslashes that stand before brackets. -/
def unescape : Text → Text
  | [] => []
  | '\\' :: '[' :: t => '[' :: unescape t
  | c :: t => c :: unescape t

/-- What pieces show while the given styles are open. -/
def show? (styles : List Text) : List Piece → Option Text
  | [] => some []
  | .text t :: rest => (show? styles rest).map (Emoji.replace (unescape t) ++ ·)
  | .tag content :: rest =>
    let name := content.takeWhile (· ≠ '=')
    match name with
    | '/' :: name => (close? (styleName name) styles).bind (show? · rest)
    | name => show? (styleName name :: styles) rest

end Markup

/-- Whether a character acts on the terminal instead of being shown. -/
def isControl (c : Char) : Bool := c = '\x07' || c = '\x08' || c = '\x0b' || c = '\x0c' || c = '\r'

/-- The text as it is shown. -/
def plain? (t : Text) : Option Text :=
  (Markup.show? [] (Markup.pieces t)).map fun s => s.filter (!isControl ·)

end FeedReader.Terminal
