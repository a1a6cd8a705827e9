import FeedReader.Proofs.Query.Tiling
import FeedReader.Proofs.Query.Written

/-!
# The gaps between tokens do not matter

The tokens of a text without errors are the tokens of every text that has them in the same order,
with gaps of any length between them, and also where the first text has none.

* `longest?_text`: each token is the token of its own text;
* `IsGap`, `LaidOut`: gaps, and lexemes with gaps behind them;
* `lexemesFrom_before`: a token before a gap;
* `lexemesFrom_laidOut`, `tokenize_laidOut`: the tokens of lexemes with gaps.
-/

namespace FeedReader.Query

variable {t u gap : Text} {x : Lexeme} {xs : List Lexeme}

/-! ### Tokens by themselves -/

/-- Each token is the token that its own text starts with, and that takes up all of it. -/
theorem longest?_text (mem : x ∈ tokenize t) (sound : x.token ≠ .error) :
    longest? x.text = some (x.token, x.text.length) := by
  by_cases keyword : ∃ k, x.token = .keyword k
  · obtain ⟨k, hk⟩ := keyword
    have stands := (tiling_lexemesFrom (Cursor.isIn_start t)).stands x mem
    have written : x.text ∈ x.token.language := by
      rw [stands.text]
      exact (stands.longest sound).mem
    rw [hk] at written ⊢
    have literal : x.text = k.literal := written
    rw [literal]
    exact longest?_literal k
  · exact whole_of_mem 0 t x mem sound fun k hk => keyword ⟨k, hk⟩

/-! ### Gaps -/

/-- Whether a text consists of spaces, tabs, line feeds and form feeds. -/
def IsGap (t : Text) : Prop := ∀ c ∈ t, c = ' ' ∨ c = '\t' ∨ c = '\n' ∨ c = '\x0c'

/-- The texts of lexemes in their order, with a gap behind each of them, which is empty behind the
last one at most. -/
inductive LaidOut : List Lexeme → Text → Prop
  | nil : LaidOut [] []
  | cons {x : Lexeme} {xs : List Lexeme} {gap t : Text} :
    IsGap gap → (xs ≠ [] → gap ≠ []) → LaidOut xs t → LaidOut (x :: xs) (x.text ++ (gap ++ t))

theorem isGap_cons_iff {c : Char} : IsGap (c :: t) ↔ isGap c = true ∧ IsGap t := by
  rw [isGap_iff]
  exact List.forall_mem_cons

theorem lexemesFrom_skip (h : IsGap gap) (p : Nat) (t : Text) :
    lexemesFrom ⟨p, gap ++ t⟩ = lexemesFrom ⟨p + gap.length, t⟩ := by
  induction gap generalizing p with
  | nil => rfl
  | cons c gap ih =>
    obtain ⟨hc, rest⟩ := isGap_cons_iff.1 h
    rw [List.cons_append, lexemesFrom_gap hc, ih rest, List.length_cons, Nat.add_assoc,
      Nat.add_comm 1]

/-- A token that stands before a gap, or at the end of the text, is read as it is by itself. -/
theorem lexemesFrom_before (whole : longest? x.text = some (x.token, x.text.length))
    (sound : x.token ≠ .error) (h : IsGap gap) (apart : u ≠ [] → gap ≠ []) (p : Nat) :
    lexemesFrom ⟨p, x.text ++ (gap ++ u)⟩ =
      { x with start := p } :: lexemesFrom ⟨p + x.text.length + gap.length, u⟩ := by
  have alone : lexemesFrom ⟨p, x.text⟩ = [{ x with start := p }] := lexemesFrom_whole whole p
  cases gap with
  | nil =>
    obtain rfl : u = [] := by
      by_contra more
      exact apart more rfl
    rw [List.append_nil, List.append_nil, alone, lexemesFrom_nil]
  | cons c gap =>
    obtain ⟨hc, rest⟩ := isGap_cons_iff.1 h
    have clean : ∀ y ∈ lexemesFrom ⟨p, x.text⟩, y.token ≠ .error := by
      rw [alone]
      exact List.forall_mem_singleton.2 sound
    rw [List.cons_append, lexemesFrom_append hc _ p x.text clean, alone, lexemesFrom_skip rest,
      List.length_cons, Nat.add_right_comm _ 1, Nat.add_assoc _ gap.length]
    rfl

/-! ### Tokens with gaps -/

theorem LaidOut.eq_nil (h : LaidOut [] t) : t = [] := by
  cases h
  rfl

/-- Lexemes with gaps behind them are cut apart again, wherever they stand. -/
theorem lexemesFrom_laidOut (h : LaidOut xs t)
    (whole : ∀ x ∈ xs, x.token ≠ .error ∧ longest? x.text = some (x.token, x.text.length))
    (p : Nat) :
    (lexemesFrom ⟨p, t⟩).map (fun x => (x.token, x.text)) =
      xs.map fun x => (x.token, x.text) := by
  induction h generalizing p with
  | nil => rw [lexemesFrom_nil]
  | @cons x xs gap t hgap apart rest ih =>
    obtain ⟨⟨sound, here⟩, others⟩ := List.forall_mem_cons.1 whole
    have apart' : t ≠ [] → gap ≠ [] := by
      intro more
      refine apart fun none => ?_
      subst none
      exact more rest.eq_nil
    rw [lexemesFrom_before here sound hgap apart', List.map_cons, List.map_cons, ih others]

/-- The tokens of a text without errors stay the same, in kind and text, if they are written with
any gaps before, between and behind them. -/
theorem tokenize_laidOut (clean : ∀ x ∈ tokenize t, x.token ≠ .error) (first : IsGap gap)
    (h : LaidOut (tokenize t) u) :
    (tokenize (gap ++ u)).map (fun x => (x.token, x.text)) =
      (tokenize t).map fun x => (x.token, x.text) := by
  rw [tokenize, Cursor.start, lexemesFrom_skip first]
  exact lexemesFrom_laidOut h (fun x hx => ⟨clean x hx, longest?_text hx (clean x hx)⟩) _

/-- A negated condition and one more, where the regular expression has a space in it. -/
theorem tokenize_laidOut_regex :
    (∀ x ∈ tokenize "~title:/a b/today", x.token ≠ .error) ∧ IsGap "\n".toList ∧
      LaidOut (tokenize "~title:/a b/today") "~ title:\t\t/a b/ \ntoday".toList ∧
      (tokenize ("\n".toList ++ "~ title:\t\t/a b/ \ntoday".toList)).map
          (fun x => (x.token, x.text)) =
        [(.keyword .negate, "~".toList), (.keyword (.field .title), "title:".toList),
          (.regex, "/a b/".toList), (.keyword .today, "today".toList)] := by
  have tokens : tokenize "~title:/a b/today" =
      [⟨.keyword .negate, 0, "~"⟩, ⟨.keyword (.field .title), 1, "title:"⟩, ⟨.regex, 7, "/a b/"⟩,
        ⟨.keyword .today, 12, "today"⟩] := by
    decide +kernel
  have clean : ∀ x ∈ tokenize "~title:/a b/today", x.token ≠ .error := by
    rw [tokens]
    decide
  have first : IsGap "\n".toList := by simp [IsGap]
  have laidOut : LaidOut (tokenize "~title:/a b/today") "~ title:\t\t/a b/ \ntoday".toList := by
    have last : IsGap [] := List.forall_mem_nil _
    have line : IsGap " \n".toList := by simp [IsGap]
    have tabs : IsGap "\t\t".toList := by simp [IsGap]
    have space : IsGap " ".toList := by simp [IsGap]
    rw [tokens]
    exact .cons space nofun (.cons tabs nofun (.cons line nofun (.cons last nofun .nil)))
  refine ⟨clean, first, laidOut, (tokenize_laidOut clean first laidOut).trans ?_⟩
  rw [tokens]
  rfl

end FeedReader.Query
