import FeedReader.Terminal.Width
import FeedReader.Text.Blank

/-!
# Text in lines of a given width

A line that is too wide is continued on the next one, after a blank where there is one. A word that
is wider than any line is either folded or cut off with dots.

* `pad`, `center`, `trimBeyond`, `shorten`: a single line brought to a width;
* `expandTabs`: blanks in place of tabs;
* `spacedWords`: the words of a line with the blanks after them;
* `chop`, `wrap`: lines of a given width. Neither loses anything.
-/

namespace FeedReader.Terminal

/-! ### Single lines -/

/-- The text with blanks after it up to a width. -/
def pad (n : Nat) (t : Text) : Text := t ++ List.replicate (n - width t) ' '

/-- The text in the middle of a width; an odd blank comes after it. -/
def center (n : Nat) (t : Text) : Text := pad n (List.replicate ((n - width t) / 2) ' ' ++ t)

/-- The text without those blanks at its end that stand beyond a number of characters. -/
def trimBeyond (n : Nat) (t : Text) : Text := t.take (max n (Text.trimEnd t).length)

/-- How far apart the places are at which a tab ends. -/
def tabStop : Nat := 8

/-- A line with blanks in place of tabs, of which the first character stands at the given place. -/
def expandTabsFrom (place : Nat) : Text → Text
  | [] => []
  | c :: t =>
    if c = '\t' then
      let n := tabStop - place % tabStop
      List.replicate n ' ' ++ expandTabsFrom (place + n) t
    else c :: expandTabsFrom (place + charWidth c) t

/-- A line with blanks in place of tabs. -/
def expandTabs (t : Text) : Text := expandTabsFrom 0 t

/-! ### Several lines -/

/-- Cuts a text wherever the next character does not fit; `line` is the line so far. -/
def chopFrom (n : Nat) (line : Text) : Text → List Text
  | [] => [line]
  | c :: t =>
    if width line + charWidth c ≤ n then chopFrom n (line ++ [c]) t else line :: chopFrom n [c] t

/-- The pieces of a text, each of which fits into a width. -/
def chop (n : Nat) (t : Text) : List Text := chopFrom n [] t

theorem flatten_chopFrom (n : Nat) (line t : Text) : (chopFrom n line t).flatten = line ++ t := by
  induction t generalizing line with
  | nil => simp [chopFrom]
  | cons c t ih => simp only [chopFrom]; split <;> simp [ih]

/-- Cutting a text into pieces loses nothing. -/
theorem flatten_chop (n : Nat) (t : Text) : (chop n t).flatten = t := flatten_chopFrom n [] t

/-- A text that is too wide, cut off with dots in its last place. -/
def shorten (n : Nat) (t : Text) : Text :=
  if width t ≤ n then t else pad (n - 1) ((chop (n - 1) t).headD []) ++ ['…']

/-- The words of a line, each with the blanks after it, and the first one with those before it. -/
def spacedWords (t : Text) : List Text :=
  match t.splitBy fun a b => !Text.isBlank a || Text.isBlank b with
  | blanks :: word :: words =>
    if blanks.all Text.isBlank then (blanks ++ word) :: words else blanks :: word :: words
  | words => words

/-- Puts words into lines of at most the given width; `line` is the line so far. A word wider than
that has lines of its own if `folds`, and one line otherwise. -/
def wrapFrom (n : Nat) (folds : Bool) (line : Text) : List Text → List Text
  | [] => [line]
  | word :: words =>
    if width line + width (Text.trimEnd word) ≤ n then wrapFrom n folds (line ++ word) words
    else
      let pieces := if folds && n < width (Text.trimEnd word) then chop n word else [word]
      (if line.isEmpty then [] else [line]) ++ pieces.dropLast ++
        wrapFrom n folds (pieces.getLastD []) words

/-- A line in lines of at most the given width. -/
def wrap (n : Nat) (folds : Bool) (t : Text) : List Text := wrapFrom n folds [] (spacedWords t)

theorem flatten_wrapFrom (n : Nat) (folds : Bool) (line : Text) (words : List Text) :
    (wrapFrom n folds line words).flatten = line ++ words.flatten := by
  induction words generalizing line with
  | nil => simp [wrapFrom]
  | cons word words ih =>
    have pieces : ∀ ps : List Text, ps.flatten = word →
        (ps.dropLast ++ [ps.getLastD []]).flatten = word := by
      intro ps h
      rcases List.eq_nil_or_concat ps with rfl | ⟨qs, q, rfl⟩
      · simpa using h
      · simpa using h
    simp only [wrapFrom]
    split
    · simp [ih]
    · have := pieces (if folds && n < width (Text.trimEnd word) then chop n word else [word])
        (by split <;> simp [flatten_chop])
      simp only [List.flatten_append, List.flatten_cons, List.flatten_nil, List.append_nil] at this
      simp only [List.flatten_append, ih, ← List.append_assoc]
      rw [List.append_assoc _ _ (List.getLastD _ _), this]
      split <;> simp_all

/-- Wrapping words into lines loses nothing. -/
theorem flatten_wrap (n : Nat) (folds : Bool) (t : Text) :
    (wrap n folds t).flatten = (spacedWords t).flatten := by
  simp [wrap, flatten_wrapFrom]

/-! ### Printed text -/

/-- The width of the terminal. -/
def columns : Nat := 200

/-- The lines in which a text is printed. -/
def printedLines (t : Text) : List Text :=
  (Text.splitAtEach '\n' t).flatMap fun line =>
    (wrap columns true (expandTabs line)).map (trimBeyond columns)

end FeedReader.Terminal
