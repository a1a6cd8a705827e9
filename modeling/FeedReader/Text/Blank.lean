import FeedReader.Text.Basic

/-!
# Blanks and words

* `isBlank`: the characters that separate words;
* `trim`, `words`;
* `splitWord`, which takes the first word off a line, and `splitLast`, which takes the last one off.
-/

namespace FeedReader.Text

/-- White space of all scripts, the information separators included. -/
def isBlank (c : Char) : Bool :=
  let n := c.toNat
  (9 ≤ n && n ≤ 13) || (28 ≤ n && n ≤ 32) || n = 0x85 || n = 0xA0 || n = 0x1680 ||
    (0x2000 ≤ n && n ≤ 0x200A) || n = 0x2028 || n = 0x2029 || n = 0x202F || n = 0x205F || n = 0x3000

/-- The text without the blanks it starts with. -/
def trimStart (t : Text) : Text := t.dropWhile isBlank

/-- The text without the blanks it ends with. -/
def trimEnd : Text → Text
  | [] => []
  | c :: t => let rest := trimEnd t; if isBlank c && rest.isEmpty then [] else c :: rest

/-- The text without the blanks around it. -/
def trim (t : Text) : Text := trimEnd (trimStart t)

/-- The first word of a line and what follows it, without the blanks around; nothing for a blank
line. -/
def splitWord (t : Text) : Option (Text × Text) :=
  match trimStart t with
  | [] => none
  | c :: s => some ((c :: s).takeWhile (!isBlank ·), trim ((c :: s).dropWhile (!isBlank ·)))

theorem length_trimStart_le (t : Text) : (trimStart t).length ≤ t.length :=
  (List.dropWhile_suffix _).length_le

theorem length_trimEnd_le (t : Text) : (trimEnd t).length ≤ t.length := by
  induction t with
  | nil => simp [trimEnd]
  | cons c t ih => simp only [trimEnd]; split <;> simp_all

/-- What follows the first word of a line is shorter than the line. -/
theorem length_of_splitWord {t word rest : Text} (h : splitWord t = some (word, rest)) :
    rest.length < t.length := by
  unfold splitWord at h
  split at h
  · simp at h
  · next c s hs =>
    have start := length_trimStart_le t
    rw [hs] at start
    have blank : isBlank c = false := by
      have := List.head?_dropWhile_not isBlank t
      rw [show t.dropWhile isBlank = c :: s from hs] at this
      simpa using this
    simp only [Option.some.injEq, Prod.mk.injEq] at h
    have tail : rest.length ≤ s.length := by
      rw [← h.2, trim, List.dropWhile_cons_of_pos (by simp [blank])]
      exact Nat.le_trans (Nat.le_trans (length_trimEnd_le _) (length_trimStart_le _))
        (List.dropWhile_suffix _).length_le
    simp only [List.length_cons] at start
    omega

/-- Reads a text from its end: the words after the first blank, and the word it starts with. -/
def wordsFrom : Text → Text × List Text
  | [] => ([], [])
  | c :: t =>
    let (word, rest) := wordsFrom t
    if isBlank c then ([], if word.isEmpty then rest else word :: rest) else (c :: word, rest)

/-- The words of a text. -/
def words (t : Text) : List Text :=
  let (word, rest) := wordsFrom t
  if word.isEmpty then rest else word :: rest

/-- What stands before the last blank of a text and what stands after it. -/
def splitAtLastBlank? : Text → Option (Text × Text)
  | [] => none
  | c :: t =>
    match splitAtLastBlank? t with
    | some (before, after) => some (c :: before, after)
    | none => if isBlank c then some ([], t) else none

/-- The finished part of a line and the word being typed at its end. -/
def splitLast (t : Text) : Text × Text := (splitAtLastBlank? t).getD ([], t)

end FeedReader.Text
