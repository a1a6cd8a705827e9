import FeedReader.Query.Token
import FeedReader.Text.Letters

/-!
# Cutting a query into tokens

At each place the longest token is taken; of a keyword and a word of one length the keyword wins,
so `read` is a keyword while `reader` is a word.

* `quotedLength?`, `regexLength?`, `tagListLength?`, `wordLength?`: how far each kind of
  open-ended token reaches;
* `longest?`: the longest token at the start of a text;
* `Lexeme`, `Cursor` and `Cursor.next`, which reads one token after the gap before it;
* `tokenize`.
-/

namespace FeedReader.Query

/-! ### Lengths of tokens -/

/-- The length of a delimited text from after its opening mark through its closing mark. A
backslash takes the next character with it, which may not be a line feed; `barred` characters may
only stand after a backslash. -/
def delimitedLength? (close : Char) (barred : Char → Bool) : Text → Option Nat
  | [] => none
  | '\\' :: [] => none
  | '\\' :: c :: t => if c = '\n' then none else (delimitedLength? close barred t).map (· + 2)
  | c :: t =>
    if c = close then some 1
    else if barred c then none
    else (delimitedLength? close barred t).map (· + 1)

/-- The length of a quoted string; it does not cross a line break. -/
def quotedLength? : Text → Option Nat
  | '"' :: t => (delimitedLength? '"' (fun c => c = '\n' || c = '\r') t).map (· + 1)
  | _ => none

/-- The length of a regular expression between slashes. -/
def regexLength? : Text → Option Nat
  | '/' :: t => (delimitedLength? '/' (fun _ => false) t).map (· + 1)
  | _ => none

/-- The letters of a tag name. -/
def isTagLetter (c : Char) : Bool := c.isAlpha

/-- What a tag name consists of after its first letter. -/
def isTagChar (c : Char) : Bool := c.isAlphanum

/-- How far a tag list goes on after the first letter of one of its names. -/
def tagListRest : Text → Nat
  | [] => 0
  | ',' :: '#' :: c :: t => if isTagLetter c then tagListRest t + 3 else 0
  | c :: t => if isTagChar c then tagListRest t + 1 else 0

/-- The length of a list of tags `#one,#two`. -/
def tagListLength? : Text → Option Nat
  | '#' :: c :: t => if isTagLetter c then some (tagListRest t + 2) else none
  | _ => none

/-- The length of a word. -/
def wordLength? (t : Text) : Option Nat :=
  match (t.takeWhile Text.isWordChar).length with
  | 0 => none
  | n + 1 => some (n + 1)

/-- The open-ended token at the start of a text, which its first character decides. -/
def openEnded? (t : Text) : Option (Token × Nat) :=
  ((quotedLength? t).map (Token.quoted, ·)).or <|
    ((regexLength? t).map (Token.regex, ·)).or <|
      ((tagListLength? t).map (Token.tagList, ·)).or ((wordLength? t).map (Token.word, ·))

/-- The longest token at the start of a text, and its length. -/
def longest? (t : Text) : Option (Token × Nat) :=
  match Keyword.startOf? t, openEnded? t with
  | some k, some (token, n) =>
    if k.literal.length < n then some (token, n) else some (.keyword k, k.literal.length)
  | some k, none => some (.keyword k, k.literal.length)
  | none, found => found

/-! ### Reading tokens -/

/-- A token and where it stands. -/
structure Lexeme where
  token : Token
  start : Nat
  text : Text
  deriving DecidableEq

/-- The position after a lexeme. -/
def Lexeme.stop (x : Lexeme) : Nat := x.start + x.text.length

/-- The characters skipped between tokens: space, tab, line feed and form feed. -/
def isGap (c : Char) : Bool := c = ' ' || c = '\t' || c = '\n' || c = '\x0c'

/-- A place in a query and what is still to be read from there. -/
structure Cursor where
  position : Nat
  rest : Text
  deriving DecidableEq

namespace Cursor

/-- The place before a text. -/
def start (t : Text) : Cursor := ⟨0, t⟩

/-- The place after `n` more characters. -/
def advance (c : Cursor) (n : Nat) : Cursor := ⟨c.position + n, c.rest.drop n⟩

/-- The place after the gap that stands here. -/
def skipGap (c : Cursor) : Cursor := c.advance (c.rest.takeWhile isGap).length

/-- The token at a place, or an error of one character. -/
def tokenHere (c : Cursor) : Token × Nat := (longest? c.rest).getD (.error, 1)

/-- The lexeme after the gap at a place that is not at the end. -/
def lexemeHere (c : Cursor) : Lexeme :=
  ⟨c.skipGap.tokenHere.1, c.skipGap.position, c.skipGap.rest.take c.skipGap.tokenHere.2⟩

/-- The next token, and the place after it; at the end of the text the place after the last
gap. -/
def next (c : Cursor) : Option Lexeme × Cursor :=
  match c.skipGap.rest with
  | [] => (none, c.skipGap)
  | _ :: _ => (some c.lexemeHere, c.skipGap.advance c.skipGap.tokenHere.2)

end Cursor

/-! ### Tokens take up characters -/

theorem Keyword.literal_length_pos (k : Keyword) : 0 < k.literal.length := by
  have all : ∀ k ∈ Keyword.list, 0 < k.literal.length := by decide
  exact all k (Keyword.mem_list k)

theorem openEnded?_pos {t : Text} {token : Token} {n : Nat} (h : openEnded? t = some (token, n)) :
    0 < n := by
  simp only [openEnded?, Option.or_eq_some_iff, Option.map_eq_some_iff, Prod.mk.injEq] at h
  rcases h with
    ⟨m, h, rfl, rfl⟩ | ⟨-, ⟨m, h, rfl, rfl⟩ | ⟨-, ⟨m, h, rfl, rfl⟩ | ⟨-, m, h, rfl, rfl⟩⟩⟩
  · unfold quotedLength? at h; split at h <;> simp at h; omega
  · unfold regexLength? at h; split at h <;> simp at h; omega
  · unfold tagListLength? at h
    split at h
    · split at h <;> simp at h; omega
    · simp at h
  · unfold wordLength? at h; split at h <;> simp at h; omega

theorem longest?_pos {t : Text} {token : Token} {n : Nat} (h : longest? t = some (token, n)) :
    0 < n := by
  unfold longest? at h
  split at h
  · next k token' n' _ ho =>
    split at h <;> simp only [Option.some.injEq, Prod.mk.injEq] at h <;> obtain ⟨-, rfl⟩ := h
    · exact openEnded?_pos ho
    · exact k.literal_length_pos
  · next k _ _ =>
    simp only [Option.some.injEq, Prod.mk.injEq] at h
    obtain ⟨-, rfl⟩ := h
    exact k.literal_length_pos
  · exact openEnded?_pos h

theorem Cursor.tokenHere_pos (c : Cursor) : 0 < c.tokenHere.2 := by
  unfold tokenHere
  cases h : longest? c.rest with
  | none => simp
  | some p => exact longest?_pos h

/-- What is left to read shrinks with every token. -/
theorem Cursor.length_next_lt {c d : Cursor} {x : Lexeme} (h : c.next = (some x, d)) :
    d.rest.length < c.rest.length := by
  have gap : c.skipGap.rest.length ≤ c.rest.length := by simp [skipGap, advance]
  have pos := c.skipGap.tokenHere_pos
  unfold next at h
  split at h
  · simp at h
  · next a t hr =>
    simp only [Prod.mk.injEq] at h
    rw [← h.2]
    simp only [advance, List.length_drop]
    have : 0 < c.skipGap.rest.length := by rw [hr]; simp
    omega

/-- The tokens from a place on. -/
def lexemesFrom (c : Cursor) : List Lexeme :=
  match _h : c.next with
  | (none, _) => []
  | (some x, d) => x :: lexemesFrom d
termination_by c.rest.length
decreasing_by exact Cursor.length_next_lt _h

/-- The tokens of a query. -/
def tokenize (t : Text) : List Lexeme := lexemesFrom (Cursor.start t)

end FeedReader.Query
