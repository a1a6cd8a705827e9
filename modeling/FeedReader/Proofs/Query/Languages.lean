import FeedReader.Proofs.Query.Tokens
import Mathlib.Computability.Language
import Mathlib.Data.Nat.SuccPred
import Mathlib.Order.SuccPred.Archimedean

/-!
# The languages of tokens

Each kind of token is a regular language, and the length functions of the tokenizer find the longest
text of the language that a text begins with.

* `single`, `runs`: characters of a kind, and runs of such characters with separators between them;
* `Token.language`: the language of each kind of token;
* `Chain`: a text of `runs`, read from its start, and `mem_runs_iff`;
* `prefixLengths`: how long the texts of a language are that a text begins with;
* `Token.length?_eq_some_iff`: the length functions find the longest one of them;
* `openEnded?_eq_some_iff`: the kinds of open-ended tokens exclude each other;
* `length?_of_longest?`, `longest?_eq_none_iff`: the choice between all kinds.
-/

namespace FeedReader.Query

open Computability

/-! ### Languages -/

/-- The texts of a single character of a kind. -/
def single (kind : Char → Bool) : Language Char := {t | ∃ c, kind c = true ∧ t = [c]}

/-- Runs of characters of a kind, with a separator between two runs. -/
def runs (kind : Char → Bool) (separator : Language Char) : Language Char :=
  (single kind)∗ * (separator * (single kind)∗)∗

/-- A backslash and any character after it but a line feed. -/
def escape : Language Char := single (· = '\\') * single (· ≠ '\n')

/-- The texts between two marks. -/
def delimited (mark : Char) (kind : Char → Bool) : Language Char :=
  single (· = mark) * runs kind escape * single (· = mark)

/-- A number sign and the first letter of a tag. -/
def tagStart : Language Char := single (· = '#') * single isTagLetter

/-- The language of each kind of token; what is no token has none. -/
def Token.language : Token → Language Char
  | .keyword k => {t | t = k.literal}
  | .quoted => delimited '"' fun c => c ≠ '"' && c ≠ '\n' && c ≠ '\r' && c ≠ '\\'
  | .regex => delimited '/' fun c => c ≠ '/' && c ≠ '\\'
  | .tagList => tagStart * runs isTagChar (single (· = ',') * tagStart)
  | .word => single Text.isWordChar * (single Text.isWordChar)∗
  | .error => 0

/-! ### Texts of a language, from their start -/

theorem mem_single {kind : Char → Bool} {c : Char} : [c] ∈ single kind ↔ kind c = true := by
  constructor
  · rintro ⟨d, hd, same⟩
    obtain rfl := List.head_eq_of_cons_eq same
    exact hd
  · intro h
    exact ⟨c, h, rfl⟩

theorem single_mul {kind : Char → Bool} {l : Language Char} {t : Text} :
    t ∈ single kind * l ↔ ∃ c s, t = c :: s ∧ kind c = true ∧ s ∈ l := by
  rw [Language.mem_mul]
  constructor
  · rintro ⟨_, ⟨c, hc, rfl⟩, s, hs, rfl⟩
    exact ⟨c, s, rfl, hc, hs⟩
  · rintro ⟨c, s, rfl, hc, hs⟩
    exact ⟨[c], mem_single.2 hc, s, hs, rfl⟩

/-- A text of runs: it is empty, or a character of the kind or a separator stands before such a
text. -/
inductive Chain (kind : Char → Bool) (separator : Language Char) : Text → Prop
  | nil : Chain kind separator []
  | char {c : Char} {t : Text} :
    kind c = true → Chain kind separator t → Chain kind separator (c :: t)
  | separated {s t : Text} :
    s ∈ separator → Chain kind separator t → Chain kind separator (s ++ t)

theorem append_mem_kstar {l : Language Char} {s t : Text} (hs : s ∈ l) (ht : t ∈ l∗) :
    s ++ t ∈ l∗ :=
  mul_kstar_le_kstar (a := l) (Language.append_mem_mul hs ht)

theorem mem_kstar_single {kind : Char → Bool} {t : Text} :
    t ∈ (single kind)∗ ↔ ∀ c ∈ t, kind c = true := by
  constructor
  · let plain : Language Char := {t | ∀ c ∈ t, kind c = true}
    have char : single kind * plain ≤ plain := by
      intro t ht
      obtain ⟨c, s, rfl, hc, hs⟩ := single_mul.1 ht
      exact List.forall_mem_cons.2 ⟨hc, hs⟩
    have nil : 1 ≤ plain := by
      intro t ht
      rw [(Language.mem_one t).1 ht]
      exact List.forall_mem_nil _
    exact fun ht => kstar_le_of_mul_le_right nil char ht
  · intro h
    induction t with
    | nil => exact Language.nil_mem_kstar _
    | cons c t ih =>
      obtain ⟨hc, ht⟩ := List.forall_mem_cons.1 h
      exact append_mem_kstar (mem_single.2 hc) (ih ht)

theorem mem_runs_iff {kind : Char → Bool} {separator : Language Char} {t : Text} :
    t ∈ runs kind separator ↔ Chain kind separator t := by
  constructor
  · -- the texts of chains are closed under what runs are made of
    let chains : Language Char := {t | Chain kind separator t}
    have char : single kind * chains ≤ chains := by
      intro t ht
      obtain ⟨c, s, rfl, hc, hs⟩ := single_mul.1 ht
      exact Chain.char hc hs
    have run : (single kind)∗ * chains ≤ chains := kstar_mul_le le_rfl char
    have separated : separator * (single kind)∗ * chains ≤ chains := by
      rw [mul_assoc]
      intro t ht
      obtain ⟨s, hs, u, hu, rfl⟩ := Language.mem_mul.1 ht
      exact Chain.separated hs (run hu)
    have nil : 1 ≤ chains := by
      intro t ht
      rw [(Language.mem_one t).1 ht]
      exact Chain.nil
    have rest : (separator * (single kind)∗)∗ ≤ chains := kstar_le_of_mul_le_right nil separated
    exact fun ht => kstar_mul_le rest char ht
  · intro h
    induction h with
    | nil => exact ⟨[], Language.nil_mem_kstar _, [], Language.nil_mem_kstar _, rfl⟩
    | char hc _ ih =>
      obtain ⟨run, hrun, rest, hrest, rfl⟩ := Language.mem_mul.1 ih
      exact ⟨_, append_mem_kstar (mem_single.2 hc) hrun, rest, hrest, rfl⟩
    | separated hs _ ih =>
      obtain ⟨run, hrun, rest, hrest, rfl⟩ := Language.mem_mul.1 ih
      have more := append_mem_kstar (Language.append_mem_mul hs hrun) hrest
      exact ⟨[], Language.nil_mem_kstar _, _, more, List.append_assoc ..⟩

/-! ### How far texts of a language reach -/

/-- The lengths of the texts of a language that a text begins with. -/
def prefixLengths (l : Language Char) (t : Text) : Set Nat := {n | n ≤ t.length ∧ t.take n ∈ l}

theorem length_mem_prefixLengths {l : Language Char} {s : Text} (h : s ∈ l) (r : Text) :
    s.length ∈ prefixLengths l (s ++ r) := by
  refine ⟨?_, ?_⟩
  · rw [List.length_append]
    exact Nat.le_add_right ..
  · rwa [List.take_left]

theorem exists_of_mem_prefixLengths {l : Language Char} {t : Text} {n : Nat}
    (h : n ∈ prefixLengths l t) : ∃ s r, t = s ++ r ∧ s ∈ l ∧ s.length = n :=
  ⟨t.take n, t.drop n, (List.take_append_drop n t).symm, h.2, List.length_take_of_le h.1⟩

/-- A length is found by looking for the greatest one if it is one of those in question, and none of
them goes beyond it. -/
theorem eq_some_iff_isGreatest {found : Option Nat} {s : Set Nat}
    (sound : ∀ n, found = some n → n ∈ s) (reach : ∀ m ∈ s, ∃ n, found = some n ∧ m ≤ n) {n : Nat} :
    found = some n ↔ IsGreatest s n := by
  constructor
  · intro h
    refine ⟨sound n h, fun m hm => ?_⟩
    obtain ⟨k, hk, le⟩ := reach m hm
    obtain rfl : n = k := Option.some.inj (h.symm.trans hk)
    exact le
  · rintro ⟨hn, greatest⟩
    obtain ⟨k, hk, le⟩ := reach n hn
    rw [hk, Nat.le_antisymm (greatest (sound k hk)) le]

/-! ### Quoted strings and regular expressions -/

section Delimited

variable {close : Char} {barred kind : Char → Bool}

/-- A delimited text goes up to the first closing mark that stands behind a chain of escapes and
other characters. -/
theorem exists_of_delimitedLength? (plain : ∀ c, kind c = (c ≠ close && !barred c && c ≠ '\\'))
    {t : Text} {n : Nat} (h : delimitedLength? close barred t = some n) :
    ∃ u r, t = u ++ close :: r ∧ n = u.length + 1 ∧ Chain kind escape u := by
  induction t using delimitedLength?.induct close barred generalizing n with
  | case1 => simp [delimitedLength?] at h
  | case2 => simp [delimitedLength?] at h
  | case3 t => simp [delimitedLength?] at h
  | case4 c t hc ih =>
    simp only [delimitedLength?, if_neg hc, Option.map_eq_some_iff] at h
    obtain ⟨m, hm, rfl⟩ := h
    obtain ⟨u, r, rfl, rfl, hu⟩ := ih hm
    have pair : ['\\', c] ∈ escape :=
      single_mul.2 ⟨'\\', [c], rfl, by decide, mem_single.2 (by simpa using hc)⟩
    exact ⟨'\\' :: c :: u, r, rfl, rfl, Chain.separated pair hu⟩
  | case5 t h1 h2 =>
    rw [delimitedLength?_cons t (ne_backslash h1 h2), if_pos rfl] at h
    obtain rfl := Option.some.inj h
    exact ⟨[], t, rfl, rfl, Chain.nil⟩
  | case6 c t h1 h2 hc hbar =>
    rw [delimitedLength?_cons t (ne_backslash h1 h2), if_neg hc, if_pos hbar] at h
    simp at h
  | case7 c t h1 h2 hc hbar ih =>
    rw [delimitedLength?_cons t (ne_backslash h1 h2), if_neg hc, if_neg hbar,
      Option.map_eq_some_iff] at h
    obtain ⟨m, hm, rfl⟩ := h
    obtain ⟨u, r, rfl, rfl, hu⟩ := ih hm
    have hk : kind c = true := by simp [plain, hc, hbar, ne_backslash h1 h2]
    exact ⟨c :: u, r, rfl, rfl, Chain.char hk hu⟩

theorem delimitedLength?_of_chain (plain : ∀ c, kind c = (c ≠ close && !barred c && c ≠ '\\'))
    (mark : close ≠ '\\') {u : Text} (h : Chain kind escape u) (r : Text) :
    delimitedLength? close barred (u ++ close :: r) = some (u.length + 1) := by
  induction h with
  | nil => rw [List.nil_append, delimitedLength?_cons _ mark, if_pos rfl]; rfl
  | @char c u hc _ ih =>
    obtain ⟨⟨hclose, hbar⟩, hb⟩ : (c ≠ close ∧ barred c = false) ∧ c ≠ '\\' := by
      simpa [plain] using hc
    rw [List.cons_append, delimitedLength?_cons _ hb, if_neg hclose, hbar, ih]
    rfl
  | @separated s u hs _ ih =>
    obtain ⟨b, s, rfl, hb, d, hd, rfl⟩ := single_mul.1 hs
    obtain rfl : b = '\\' := by simpa using hb
    have hd : d ≠ '\n' := by simpa using hd
    simp only [List.cons_append, List.nil_append, delimitedLength?, if_neg hd, ih]
    rfl

theorem mem_delimited_iff {mark : Char} {t : Text} :
    t ∈ delimited mark kind ↔ ∃ u, t = mark :: (u ++ [mark]) ∧ Chain kind escape u := by
  rw [delimited, mul_assoc, single_mul]
  constructor
  · rintro ⟨c, s, rfl, hc, hs⟩
    obtain rfl : c = mark := by simpa using hc
    obtain ⟨u, hu, _, ⟨d, hd, rfl⟩, rfl⟩ := Language.mem_mul.1 hs
    obtain rfl : d = c := by simpa using hd
    exact ⟨u, rfl, mem_runs_iff.1 hu⟩
  · rintro ⟨u, rfl, hu⟩
    have last : [mark] ∈ single (· = mark) := mem_single.2 (by simp)
    exact ⟨mark, u ++ [mark], rfl, by simp, Language.mem_mul.2 ⟨u, mem_runs_iff.2 hu, _, last, rfl⟩⟩

/-- Of the texts between two marks a text begins with one at most. -/
theorem delimitedLength?_eq_some_iff
    (plain : ∀ c, kind c = (c ≠ close && !barred c && c ≠ '\\')) (mark : close ≠ '\\')
    {t : Text} {n : Nat} :
    (delimitedLength? close barred t).map (· + 1) = some n ↔
      n ∈ prefixLengths (delimited close kind) (close :: t) := by
  rw [Option.map_eq_some_iff]
  constructor
  · rintro ⟨m, hm, rfl⟩
    obtain ⟨u, r, rfl, rfl, hu⟩ := exists_of_delimitedLength? plain hm
    have text : close :: (u ++ [close]) ∈ delimited close kind := mem_delimited_iff.2 ⟨u, rfl, hu⟩
    simpa using length_mem_prefixLengths text r
  · intro h
    obtain ⟨s, r, same, hs, rfl⟩ := exists_of_mem_prefixLengths h
    obtain ⟨u, rfl, hu⟩ := mem_delimited_iff.1 hs
    have rest : t = u ++ close :: r := by simpa using same
    refine ⟨u.length + 1, ?_, by simp⟩
    rw [rest]
    exact delimitedLength?_of_chain plain mark hu r

end Delimited

theorem quotedLength?_eq_some_iff {t : Text} {n : Nat} :
    quotedLength? t = some n ↔ n ∈ prefixLengths Token.quoted.language t := by
  unfold quotedLength?
  split
  · exact delimitedLength?_eq_some_iff (fun c => by simp [Bool.and_assoc]) (by decide)
  · next h =>
    simp only [reduceCtorEq, false_iff]
    intro hn
    obtain ⟨s, r, rfl, hs, -⟩ := exists_of_mem_prefixLengths hn
    obtain ⟨u, rfl, -⟩ := mem_delimited_iff.1 hs
    exact h _ rfl

theorem regexLength?_eq_some_iff {t : Text} {n : Nat} :
    regexLength? t = some n ↔ n ∈ prefixLengths Token.regex.language t := by
  unfold regexLength?
  split
  · exact delimitedLength?_eq_some_iff (fun c => by simp) (by decide)
  · next h =>
    simp only [reduceCtorEq, false_iff]
    intro hn
    obtain ⟨s, r, rfl, hs, -⟩ := exists_of_mem_prefixLengths hn
    obtain ⟨u, rfl, -⟩ := mem_delimited_iff.1 hs
    exact h _ rfl

/-! ### Tag lists -/

/-- What follows the first letter of a tag in a tag list. -/
abbrev TagChain : Text → Prop := Chain isTagChar (single (· = ',') * tagStart)

theorem mem_tagSeparator {t : Text} :
    t ∈ single (· = ',') * tagStart ↔ ∃ c, t = [',', '#', c] ∧ isTagLetter c = true := by
  rw [tagStart, single_mul]
  constructor
  · rintro ⟨b, _, rfl, hb, hs⟩
    obtain ⟨d, _, rfl, hd, c, hc, rfl⟩ := single_mul.1 hs
    obtain rfl : b = ',' := by simpa using hb
    obtain rfl : d = '#' := by simpa using hd
    exact ⟨c, rfl, hc⟩
  · rintro ⟨c, rfl, hc⟩
    exact ⟨',', ['#', c], rfl, by decide, single_mul.2 ⟨'#', [c], rfl, by decide, mem_single.2 hc⟩⟩

theorem mem_tagList {t : Text} :
    t ∈ Token.tagList.language ↔ ∃ c u, t = '#' :: c :: u ∧ isTagLetter c = true ∧ TagChain u := by
  rw [Token.language, tagStart, mul_assoc, single_mul]
  constructor
  · rintro ⟨d, s, rfl, hd, hs⟩
    obtain ⟨c, u, rfl, hc, hu⟩ := single_mul.1 hs
    obtain rfl : d = '#' := by simpa using hd
    exact ⟨c, u, rfl, hc, mem_runs_iff.1 hu⟩
  · rintro ⟨c, u, rfl, hc, hu⟩
    exact ⟨'#', c :: u, rfl, by decide, single_mul.2 ⟨c, u, rfl, hc, mem_runs_iff.2 hu⟩⟩

/-- A tag list goes on through a chain of names. -/
theorem chain_tagListRest (t : Text) :
    ∃ u r, t = u ++ r ∧ u.length = tagListRest t ∧ TagChain u := by
  induction t using tagListRest.induct with
  | case1 => exact ⟨[], [], rfl, rfl, Chain.nil⟩
  | case2 c t hc ih =>
    obtain ⟨u, r, rfl, hn, hu⟩ := ih
    refine ⟨',' :: '#' :: c :: u, r, rfl, ?_, Chain.separated (mem_tagSeparator.2 ⟨c, rfl, hc⟩) hu⟩
    simp [tagListRest, hc, hn]
  | case3 c t hc => exact ⟨[], ',' :: '#' :: c :: t, rfl, by simp [tagListRest, hc], Chain.nil⟩
  | case4 c t h hc ih =>
    obtain ⟨u, r, rfl, hn, hu⟩ := ih
    have comma : c ≠ ',' := by rintro rfl; exact absurd hc (by decide)
    refine ⟨c :: u, r, rfl, ?_, Chain.char hc hu⟩
    rw [tagListRest_cons _ comma, if_pos hc, List.length_cons, hn]
  | case5 c t h hc =>
    refine ⟨[], c :: t, rfl, ?_, Chain.nil⟩
    rw [tagListRest, if_neg hc]
    · rfl
    · exact h

/-- No chain of names goes on any further. -/
theorem length_le_tagListRest {u : Text} (h : TagChain u) (r : Text) :
    u.length ≤ tagListRest (u ++ r) := by
  induction h with
  | nil => exact Nat.zero_le _
  | @char c u hc _ ih =>
    have comma : c ≠ ',' := by rintro rfl; exact absurd hc (by decide)
    rw [List.cons_append, tagListRest_cons _ comma, if_pos hc, List.length_cons]
    exact Nat.succ_le_succ ih
  | @separated s u hs _ ih =>
    obtain ⟨c, rfl, hc⟩ := mem_tagSeparator.1 hs
    simpa [tagListRest, hc] using ih

theorem tagListLength?_eq_some_iff {t : Text} {n : Nat} :
    tagListLength? t = some n ↔ IsGreatest (prefixLengths Token.tagList.language t) n := by
  refine eq_some_iff_isGreatest ?_ ?_
  · intro n h
    unfold tagListLength? at h
    split at h
    · next c t =>
      split at h
      · next hc =>
        obtain rfl := Option.some.inj h
        obtain ⟨u, r, rfl, hn, hu⟩ := chain_tagListRest t
        rw [← hn]
        exact length_mem_prefixLengths (mem_tagList.2 ⟨c, u, rfl, hc, hu⟩) r
      · simp at h
    · simp at h
  · intro m hm
    obtain ⟨s, r, rfl, hs, rfl⟩ := exists_of_mem_prefixLengths hm
    obtain ⟨c, u, rfl, hc, hu⟩ := mem_tagList.1 hs
    refine ⟨tagListRest (u ++ r) + 2, ?_, ?_⟩
    · rw [List.cons_append, List.cons_append, tagListLength?, if_pos hc]
    · exact Nat.add_le_add_right (length_le_tagListRest hu r) 2

/-! ### Words -/

theorem mem_word {t : Text} :
    t ∈ Token.word.language ↔ t ≠ [] ∧ ∀ c ∈ t, Text.isWordChar c = true := by
  rw [Token.language, single_mul]
  constructor
  · rintro ⟨c, s, rfl, hc, hs⟩
    exact ⟨List.cons_ne_nil c s, List.forall_mem_cons.2 ⟨hc, mem_kstar_single.1 hs⟩⟩
  · rintro ⟨nonempty, h⟩
    obtain ⟨c, s, rfl⟩ := List.exists_cons_of_ne_nil nonempty
    obtain ⟨hc, hs⟩ := List.forall_mem_cons.1 h
    exact ⟨c, s, rfl, hc, mem_kstar_single.2 hs⟩

theorem wordLength?_eq_some_iff_isGreatest {t : Text} {n : Nat} :
    wordLength? t = some n ↔ IsGreatest (prefixLengths Token.word.language t) n := by
  refine eq_some_iff_isGreatest ?_ ?_
  · intro n h
    obtain ⟨rfl, pos⟩ := wordLength?_eq_some_iff.1 h
    refine ⟨(List.takeWhile_prefix _).length_le, ?_⟩
    rw [take_length_takeWhile]
    exact mem_word.2 ⟨List.ne_nil_of_length_pos pos, fun c => List.mem_takeWhile_imp⟩
  · intro m hm
    obtain ⟨s, r, rfl, hs, rfl⟩ := exists_of_mem_prefixLengths hm
    obtain ⟨nonempty, h⟩ := mem_word.1 hs
    have le : s.length ≤ ((s ++ r).takeWhile Text.isWordChar).length := by
      rw [List.takeWhile_append_of_pos h, List.length_append]
      exact Nat.le_add_right ..
    have pos : 0 < s.length := List.length_pos_iff.2 nonempty
    exact ⟨_, wordLength?_eq_some_iff.2 ⟨rfl, by omega⟩, le⟩

/-! ### All kinds of tokens -/

/-- How far a token of a kind reaches at the start of a text. -/
def Token.length? (t : Text) : Token → Option Nat
  | keyword k => if k.literal <+: t then some k.literal.length else none
  | quoted => quotedLength? t
  | regex => regexLength? t
  | tagList => tagListLength? t
  | word => wordLength? t
  | error => none

theorem keyword_length?_eq_some_iff {k : Keyword} {t : Text} {n : Nat} :
    (Token.keyword k).length? t = some n ↔ k.literal <+: t ∧ k.literal.length = n := by
  simp [Token.length?]

/-- A token reaches as far as the longest text of its language that a text begins with. -/
theorem Token.length?_eq_some_iff {token : Token} {t : Text} {n : Nat} :
    token.length? t = some n ↔ IsGreatest (prefixLengths token.language t) n := by
  cases token with
  | keyword k =>
    refine eq_some_iff_isGreatest ?_ ?_
    · intro n h
      obtain ⟨⟨r, rfl⟩, rfl⟩ := keyword_length?_eq_some_iff.1 h
      have self : k.literal ∈ (Token.keyword k).language := rfl
      exact length_mem_prefixLengths self r
    · intro m hm
      obtain ⟨s, r, rfl, rfl, rfl⟩ := exists_of_mem_prefixLengths hm
      exact ⟨_, keyword_length?_eq_some_iff.2 ⟨List.prefix_append .., rfl⟩, le_rfl⟩
  | quoted =>
    exact eq_some_iff_isGreatest (fun _ => quotedLength?_eq_some_iff.1)
      fun m hm => ⟨m, quotedLength?_eq_some_iff.2 hm, le_rfl⟩
  | regex =>
    exact eq_some_iff_isGreatest (fun _ => regexLength?_eq_some_iff.1)
      fun m hm => ⟨m, regexLength?_eq_some_iff.2 hm, le_rfl⟩
  | tagList => exact tagListLength?_eq_some_iff
  | word => exact wordLength?_eq_some_iff_isGreatest
  | error => exact eq_some_iff_isGreatest (fun _ h => by simp [length?] at h) fun _ hm => hm.2.elim

theorem exists_length?_of_mem {token : Token} {t : Text} {m : Nat}
    (h : m ∈ prefixLengths token.language t) : ∃ n, token.length? t = some n ∧ m ≤ n := by
  have bounded : BddAbove (prefixLengths token.language t) := ⟨t.length, fun _ hn => hn.1⟩
  obtain ⟨n, hn⟩ := bounded.exists_isGreatest_of_nonempty ⟨m, h⟩
  exact ⟨n, Token.length?_eq_some_iff.2 hn, hn.2 h⟩

/-- The kinds of open-ended tokens exclude each other. -/
theorem openEnded?_eq_some_iff {t : Text} {token : Token} {n : Nat} :
    openEnded? t = some (token, n) ↔ (∀ k, token ≠ .keyword k) ∧ token.length? t = some n := by
  constructor
  · intro h
    simp only [openEnded?, Option.or_eq_some_iff, Option.map_eq_some_iff, Prod.mk.injEq] at h
    rcases h with
      ⟨m, h, rfl, rfl⟩ | ⟨-, ⟨m, h, rfl, rfl⟩ | ⟨-, ⟨m, h, rfl, rfl⟩ | ⟨-, m, h, rfl, rfl⟩⟩⟩ <;>
      exact ⟨by simp, h⟩
  · rintro ⟨open_ended, h⟩
    cases t with
    | nil => cases token <;> simp_all [Token.length?, quotedLength?, regexLength?, tagListLength?,
        wordLength?]
    | cons c t =>
      -- the first character is the mark of the kind, or a word character and no mark
      rw [openEnded?_cons]
      cases token with
      | keyword k => exact absurd rfl (open_ended k)
      | quoted =>
        obtain rfl : c = '"' := by
          by_contra ne
          simp [Token.length?, quotedLength?_of_ne ne] at h
        simpa [Token.length?] using h
      | regex =>
        obtain rfl : c = '/' := by
          by_contra ne
          simp [Token.length?, regexLength?_of_ne ne] at h
        simpa [Token.length?] using h
      | tagList =>
        obtain rfl : c = '#' := by
          by_contra ne
          simp [Token.length?, tagListLength?_of_ne ne] at h
        simpa [Token.length?] using h
      | word =>
        have letter : Text.isWordChar c = true := by
          by_contra no
          simp [Token.length?, wordLength?, no] at h
        have marks : ['"', '/', '#'].all (!Text.isWordChar ·) = true := by decide
        have none : ∀ m ∈ ['"', '/', '#'], c ≠ m := by
          rintro m hm rfl
          simpa [letter] using List.all_eq_true.1 marks c hm
        rw [if_neg (none _ (by decide)), if_neg (none _ (by decide)), if_neg (none _ (by decide))]
        simpa [Token.length?] using h
      | error => simp [Token.length?] at h

/-! ### The longest token -/

theorem keyword_length?_iff_start {t : Text} {k : Keyword} {n : Nat} :
    (Token.keyword k).length? t = some n ↔
      Keyword.startOf? t = some k ∧ k.literal.length = n := by
  rw [keyword_length?_eq_some_iff, startOf?_eq_some_iff]

theorem length?_eq_some_iff_start {t : Text} {token : Token} {n : Nat} :
    token.length? t = some n ↔
      (∃ k, token = .keyword k ∧ Keyword.startOf? t = some k ∧ k.literal.length = n) ∨
        openEnded? t = some (token, n) := by
  rw [openEnded?_eq_some_iff]
  cases token with
  | keyword k =>
    rw [keyword_length?_iff_start]
    simp
  | _ => simp

/-- No token reaches further than the keyword and the open-ended token do. -/
theorem le_of_length? {t : Text} {bound : Nat}
    (keyword : ∀ k, Keyword.startOf? t = some k → k.literal.length ≤ bound)
    (openEnded : ∀ token m, openEnded? t = some (token, m) → m ≤ bound) {token : Token} {m : Nat}
    (h : token.length? t = some m) : m ≤ bound := by
  rcases length?_eq_some_iff_start.1 h with ⟨k, -, found, rfl⟩ | found
  · exact keyword k found
  · exact openEnded token m found

/-- The token at the start of a text reaches as far as any token does, and it is a keyword if a
keyword reaches as far. -/
theorem length?_of_longest? {t : Text} {token : Token} {n : Nat}
    (h : longest? t = some (token, n)) :
    token.length? t = some n ∧ (∀ (other : Token) m, other.length? t = some m → m ≤ n) ∧
      ∀ k : Keyword, (Token.keyword k).length? t = some n → token = .keyword k := by
  simp only [keyword_length?_iff_start]
  unfold longest? at h
  -- at most one keyword and one open-ended token come into question
  split at h
  · next k other m hk ho =>
    split at h
    · next lt =>
      obtain ⟨rfl, rfl⟩ : other = token ∧ m = n := by simpa using h
      refine ⟨length?_eq_some_iff_start.2 (.inr ho), fun _ _ => ?_, ?_⟩
      · exact le_of_length? (by simp [hk, lt.le]) (by simp [ho])
      · rintro k' ⟨start, size⟩
        obtain rfl : k = k' := Option.some.inj (hk.symm.trans start)
        exact absurd size lt.ne
    · next le =>
      obtain ⟨rfl, rfl⟩ : .keyword k = token ∧ k.literal.length = n := by simpa using h
      refine ⟨keyword_length?_iff_start.2 ⟨hk, rfl⟩, fun _ _ => ?_, ?_⟩
      · exact le_of_length? (by simp [hk]) (by simp [ho, Nat.not_lt.1 le])
      · rintro k' ⟨start, -⟩
        exact congrArg _ (Option.some.inj (hk.symm.trans start))
  · next k hk ho =>
    obtain ⟨rfl, rfl⟩ : .keyword k = token ∧ k.literal.length = n := by simpa using h
    refine ⟨keyword_length?_iff_start.2 ⟨hk, rfl⟩, fun _ _ => ?_, ?_⟩
    · exact le_of_length? (by simp [hk]) (by simp [ho])
    · rintro k' ⟨start, -⟩
      exact congrArg _ (Option.some.inj (hk.symm.trans start))
  · next hk =>
    refine ⟨length?_eq_some_iff_start.2 (.inr h), fun _ _ => ?_, ?_⟩
    · exact le_of_length? (by simp [hk]) (by simp [h])
    · rintro k' ⟨start, -⟩
      simp [hk] at start

theorem isSome_longest? (t : Text) :
    (longest? t).isSome = ((Keyword.startOf? t).isSome || (openEnded? t).isSome) := by
  unfold longest?
  split
  · next k token n hk ho => split <;> simp [hk]
  · next k hk ho => simp [hk]
  · next hk => simp [hk]

/-- There is a token at the start of a text exactly if a token of some kind is there. -/
theorem longest?_eq_none_iff {t : Text} :
    longest? t = none ↔ ∀ token : Token, token.length? t = none := by
  rw [← Option.not_isSome_iff_eq_none, isSome_longest?, Bool.or_eq_true, not_or,
    Option.not_isSome_iff_eq_none, Option.not_isSome_iff_eq_none]
  constructor
  · rintro ⟨hk, ho⟩ token
    by_contra h
    obtain ⟨n, hn⟩ := Option.ne_none_iff_exists'.1 h
    rcases length?_eq_some_iff_start.1 hn with ⟨k, -, found, -⟩ | found
    · simp [hk] at found
    · simp [ho] at found
  · intro h
    constructor
    · by_contra some
      obtain ⟨k, hk⟩ := Option.ne_none_iff_exists'.1 some
      simpa [h] using length?_eq_some_iff_start.2 (.inl ⟨k, rfl, hk, rfl⟩)
    · by_contra some
      obtain ⟨⟨token, n⟩, ho⟩ := Option.ne_none_iff_exists'.1 some
      simpa [h] using length?_eq_some_iff_start.2 (.inr ho)

end FeedReader.Query
