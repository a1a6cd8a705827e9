import FeedReader.Color
import FeedReader.Proofs.Text.Words
import Mathlib.Data.List.Basic

/-!
# Reading a color from its written form

A color is a single word in lower case, so that it stands for itself.

* `Text.isPlain`: characters that are no blanks and stay as they are in lower case;
* `Text.isPlain_of_isDigit`: the digits of all scripts are such characters;
* `Text.all_map_toList`: where a test of characters may look at bytes instead;
* `isPlain_of_isWritten`, by the ways in which colors are written;
* `isWord_text`, `read_text`;
* `read_of_lacksAmount`: texts that leave out an amount.
-/

namespace FeedReader

/-! ### Characters that lower case leaves alone -/

namespace Text

/-- A character that is no blank and stays as it is in lower case, wherever it stands. -/
def isPlain (c : Char) : Bool := !isBlank c && c ≠ 'Σ' && lowerChar c = [c]

theorem lower_eq_self {t : Text} (h : ∀ c ∈ t, isPlain c = true) : lower t = t := by
  -- what stands before a character matters for a final sigma only
  suffices ∀ before, lowerAfter before t = t from this false
  induction t with
  | nil => simp [lowerAfter]
  | cons c t ih =>
    intro before
    have plain := h c (by simp)
    simp only [isPlain, Bool.and_eq_true, decide_eq_true_eq] at plain
    rw [lowerAfter, if_neg plain.1.2, plain.2, ih fun d hd => h d (by simp [hd])]
    rfl

theorem isWord_of_isPlain {t : Text} (hn : t ≠ []) (h : ∀ c ∈ t, isPlain c = true) : IsWord t := by
  refine ⟨hn, fun c hc => ?_⟩
  have plain := h c hc
  simp only [isPlain, Bool.and_eq_true, Bool.not_eq_true'] at plain
  exact plain.1.1

/-- Whether a code point is a printable one of ASCII other than a capital letter. -/
def isSmall (n : Nat) : Bool := Nat.blt 32 n && Nat.blt n 127 && !(Nat.blt 64 n && Nat.blt n 91)

theorem isPlain_of_isSmall {c : Char} (h : isSmall c.toNat = true) : isPlain c = true := by
  have all : ∀ n < 127, isSmall n = true → isPlain (Char.ofNat n) = true := by decide
  have bound : c.toNat < 127 := by
    simp only [isSmall, Bool.and_eq_true, Nat.blt_eq] at h
    exact h.1.2
  simpa using all c.toNat bound h

theorem exists_of_startOf? {ranges : Ranges} {n first : Nat} (h : ranges.startOf? n = some first) :
    ∃ r ∈ ranges, r.1 ≤ n ∧ n ≤ r.2 := by
  induction ranges with
  | nil => simp [Ranges.startOf?] at h
  | cons r rest ih =>
    obtain ⟨a, b⟩ := r
    simp only [Ranges.startOf?] at h
    split at h
    · simp at h
    · split at h
      · exact ⟨(a, b), by simp, by omega, by omega⟩
      · obtain ⟨r, hr, bounds⟩ := ih h
        exact ⟨r, by simp [hr], bounds⟩

theorem find?_eq_none {runs : List CaseRun} {n : Nat}
    (h : ∀ run ∈ runs, n < run.first ∨ run.last < n) : CaseRun.find? runs n = none := by
  induction runs with
  | nil => rfl
  | cons run runs ih =>
    rw [CaseRun.find?, ih fun r hr => h r (by simp [hr])]
    rcases h run (by simp) with before | after
    · rw [if_pos before]
    · split
      · rfl
      · rw [if_neg (by omega)]

/-- Digits have no case. -/
theorem isPlain_of_isDigit {c : Char} (h : isDigit c = true) : isPlain c = true := by
  -- the tables of digits and of letters with two cases have no code point in common
  have apart : (decimalDigits.all fun r => lowerRuns.all fun run =>
      Nat.blt r.2 run.first || Nat.blt run.last r.1) = true := by
    decide +kernel
  have others_apart : ∀ n ∈ 'İ'.toNat :: 'Σ'.toNat :: blankCodes,
      decimalDigits.startOf? n = none := by
    decide +kernel
  simp only [isDigit, digitValue?, Option.isSome_map, Option.isSome_iff_exists] at h
  obtain ⟨first, found⟩ := h
  obtain ⟨r, hr, low, high⟩ := exists_of_startOf? found
  have other : ∀ n ∈ 'İ'.toNat :: 'Σ'.toNat :: blankCodes, c.toNat ≠ n := by
    rintro n hn rfl
    simp [others_apart _ hn] at found
  have noRun : CaseRun.find? lowerRuns c.toNat = none := by
    refine find?_eq_none fun run hrun => ?_
    have := List.all_eq_true.1 (List.all_eq_true.1 apart r hr) run hrun
    simp only [Bool.or_eq_true, Nat.blt_eq] at this
    omega
  have noBlank : isBlank c = false := by
    by_contra blank
    exact other _ (by simp [mem_blankCodes (Bool.not_eq_false _ ▸ blank)]) rfl
  have noI : c ≠ 'İ' := by rintro rfl; exact other _ (by simp) rfl
  have noSigma : c ≠ 'Σ' := by rintro rfl; exact other _ (by simp) rfl
  simp [isPlain, noBlank, noSigma, lowerChar, noI, noRun]

/-- The characters of a text are separators, or stand in one of the pieces between them. -/
theorem mem_splitAtEach (sep : Char) {c : Char} {t : Text} (h : c ∈ t) :
    c = sep ∨ ∃ piece ∈ splitAtEach sep t, c ∈ piece := by
  induction t with
  | nil => simp at h
  | cons d t ih =>
    rw [splitAtEach]
    split
    · next hd =>
      rcases List.mem_cons.1 h with rfl | ht
      · exact .inl hd
      · rcases ih ht with hs | ⟨piece, hp, hc⟩
        · exact .inl hs
        · exact .inr ⟨piece, by simp [hp], hc⟩
    · split
      · next none =>
        rcases List.mem_cons.1 h with rfl | ht
        · exact .inr ⟨[c], by simp, by simp⟩
        · rcases ih ht with hs | ⟨piece, hp, -⟩
          · exact .inl hs
          · simp [none] at hp
      · next first pieces found =>
        -- the character in front is put to the first piece
        rcases List.mem_cons.1 h with rfl | ht
        · exact .inr ⟨c :: first, by simp, by simp⟩
        · rcases ih ht with hs | ⟨piece, hp, hc⟩
          · exact .inl hs
          · rw [found] at hp
            rcases List.mem_cons.1 hp with rfl | hp
            · exact .inr ⟨d :: piece, by simp, by simp [hc]⟩
            · exact .inr ⟨piece, by simp [hp], hc⟩

theorem all_utf8EncodeChar {p : Nat → Bool} (ascii : ∀ n, p n = true → n < 128) (c : Char) :
    ((String.utf8EncodeChar c).all fun b => p b.toNat) = p c.toNat := by
  by_cases one : c.toNat ≤ 127
  · rw [String.utf8EncodeChar_eq_singleton (Char.utf8Size_eq_one_iff.2 one), List.all_cons,
      List.all_nil, Bool.and_true]
    have byte : c.toNat < 256 := by omega
    exact congrArg p (Nat.mod_eq_of_lt byte)
  · -- the last one of several bytes is beyond ASCII, as the character is
    have last : UInt8.ofNat (c.toNat % 64 + 128) ∈ String.utf8EncodeChar c := by
      rw [String.utf8EncodeChar, show c.val.toNat = c.toNat from rfl]
      grind
    have beyond : (UInt8.ofNat (c.toNat % 64 + 128)).toNat = c.toNat % 64 + 128 :=
      UInt8.toNat_ofNat_of_lt' (by simp only [UInt8.size]; omega)
    have fails : ¬ p (c.toNat % 64 + 128) = true := mt (ascii _) (by omega)
    have none : ¬ p c.toNat = true := mt (ascii _) (by omega)
    rw [Bool.eq_false_iff.2 none]
    exact List.all_eq_false.2 ⟨_, last, beyond.symm ▸ fails⟩

/-- A test that only ASCII passes may look at the bytes of strings, which are at hand, while their
characters have to be decoded. -/
theorem all_map_toList {p : Nat → Bool} (ascii : ∀ n, p n = true → n < 128)
    (strings : List String) :
    ((strings.map String.toList).all fun t => t.all fun c => p c.toNat) =
      strings.all fun s => s.toByteArray.data.toList.all fun b => p b.toNat := by
  rw [List.all_map]
  congr 1
  funext s
  rw [← String.utf8Encode_toList, List.utf8Encode, List.data_toByteArray, List.all_flatMap]
  simp only [Function.comp_apply, all_utf8EncodeChar ascii]

end Text

/-! ### Written colors -/

namespace Color

open Text (isPlain)

theorem eq_of_enclosed? {start t inner : Text} (h : enclosed? start t = some inner) :
    t = start ++ (inner ++ [')']) := by
  unfold enclosed? at h
  split at h
  · next rest found =>
    split at h
    · next last =>
      obtain rfl := Option.some.inj h
      rw [List.dropLast_append_getLast? _ last]
      exact Text.dropPrefix?_eq_some_iff.1 found
    · cases h
  · cases h

theorem mem_of_enclosed? {start t inner : Text} {c : Char} (h : enclosed? start t = some inner)
    (hc : c ∈ t) : c ∈ start ∨ c ∈ inner ∨ c = ')' := by
  rw [eq_of_enclosed? h] at hc
  simpa using hc

theorem isPlain_of_isDigit {c : Char} (h : c.isDigit = true) : isPlain c = true := by
  simp only [Char.isDigit, Bool.and_eq_true, decide_eq_true_eq] at h
  have low : 48 ≤ c.toNat := h.1
  have high : c.toNat ≤ 57 := h.2
  refine Text.isPlain_of_isSmall ?_
  simp only [Text.isSmall, Bool.and_eq_true, Bool.not_eq_true', Nat.blt_eq, ← Bool.not_eq_true]
  omega

theorem isPlain_of_isHex {t : Text} (h : isHex t = true) : ∀ c ∈ t, isPlain c = true := by
  unfold isHex at h
  split at h
  · next s =>
    simp only [Bool.and_eq_true, List.all_eq_true] at h
    intro c hc
    rcases List.mem_cons.1 hc with rfl | hs
    · decide
    · have digit := h.2 c hs
      simp only [isHexDigit, Bool.or_eq_true, Bool.and_eq_true, decide_eq_true_eq] at digit
      rcases digit with digit | ⟨low, high⟩
      · exact isPlain_of_isDigit digit
      · have low : 97 ≤ c.toNat := low
        have high : c.toNat ≤ 102 := high
        refine Text.isPlain_of_isSmall ?_
        simp only [Text.isSmall, Bool.and_eq_true, Bool.not_eq_true', Nat.blt_eq,
          ← Bool.not_eq_true]
        omega
  · simp at h

theorem isPlain_of_isNumbered {t : Text} (h : isNumbered t = true) : ∀ c ∈ t, isPlain c = true := by
  unfold isNumbered at h
  split at h
  · next n found =>
    simp only [Bool.and_eq_true, List.all_eq_true] at h
    have start : "color(".toList.all isPlain = true := by decide
    intro c hc
    rcases mem_of_enclosed? found hc with hs | digit | rfl
    · exact List.all_eq_true.1 start c hs
    · exact isPlain_of_isDigit (h.1.2 c digit)
    · decide
  · simp at h

theorem isPlain_of_isMixed {t : Text} (h : isMixed t = true) : ∀ c ∈ t, isPlain c = true := by
  simp only [isMixed, amounts?, Option.any_eq_true, Option.filter_eq_some_iff,
    Option.map_eq_some_iff, Bool.and_eq_true, List.all_eq_true] at h
  obtain ⟨parts, ⟨⟨inner, found, rfl⟩, -, digits⟩, -⟩ := h
  have start : "rgb(".toList.all isPlain = true := by decide
  intro c hc
  rcases mem_of_enclosed? found hc with hs | amount | rfl
  · exact List.all_eq_true.1 start c hs
  · rcases Text.mem_splitAtEach ',' amount with rfl | ⟨piece, hp, digit⟩
    · decide
    · exact Text.isPlain_of_isDigit (digits piece hp c digit)
  · decide

theorem nil_notMem_names : [] ∉ names := by
  intro h
  obtain ⟨s, hs, empty⟩ := List.mem_map.1 h
  rw [String.toList_eq_nil_iff] at empty
  subst empty
  revert hs
  decide +kernel

/-- The names of colors consist of small letters and the like, without parentheses. -/
theorem isSmall_of_mem_names {t : Text} (h : t ∈ names) :
    ∀ c ∈ t, Text.isSmall c.toNat = true ∧ c ≠ '(' := by
  have ascii (n : Nat) (h : (Text.isSmall n && n != 40) = true) : n < 128 := by
    simp only [Text.isSmall, Bool.and_eq_true, Nat.blt_eq] at h
    omega
  have all : (names.all fun t => t.all fun c => Text.isSmall c.toNat && c.toNat != 40) = true := by
    rw [names, Text.all_map_toList ascii]
    decide +kernel
  intro c hc
  have passed := List.all_eq_true.1 (List.all_eq_true.1 all t h) c hc
  rw [Bool.and_eq_true, bne_iff_ne] at passed
  exact ⟨passed.1, fun h => passed.2 (congrArg Char.toNat h)⟩

theorem isPlain_of_isWritten {t : Text} (h : isWritten t = true) : ∀ c ∈ t, isPlain c = true := by
  simp only [isWritten, Bool.or_eq_true, decide_eq_true_eq, List.contains_iff_mem] at h
  rcases h with (((rfl | name) | hex) | numbered) | mixed
  · exact List.all_eq_true.1 (by decide)
  · exact fun c hc => Text.isPlain_of_isSmall (isSmall_of_mem_names name c hc).1
  · exact isPlain_of_isHex hex
  · exact isPlain_of_isNumbered numbered
  · exact isPlain_of_isMixed mixed

/-- A color is written as a single word. -/
theorem isWord_text (c : Color) : Text.IsWord c.text := by
  refine Text.isWord_of_isPlain ?_ (isPlain_of_isWritten c.written)
  intro none
  have written := c.written
  simp only [none, isWritten, Bool.or_eq_true, decide_eq_true_eq, List.contains_iff_mem] at written
  rcases written with (((default | name) | hex) | numbered) | mixed
  · exact absurd default (by decide)
  · exact nil_notMem_names name
  · exact absurd hex (by decide)
  · exact absurd numbered (by decide)
  · exact absurd mixed (by decide)

/-- A color is read from its written form. -/
theorem read_text (c : Color) : Color.read c.text = .ok c := by
  have same := Text.lower_eq_self (isPlain_of_isWritten c.written)
  unfold Color.read
  rw [dif_pos (by rw [same]; exact c.written)]
  simp only [same]

/-! ### Texts that leave out an amount -/

/-- A text that leaves out an amount is written in none of the ways in which colors are. -/
theorem isWritten_of_lacksAmount {t : Text} (h : lacksAmount t = true) : isWritten t = false := by
  simp only [lacksAmount, Option.any_eq_true, List.contains_iff_mem] at h
  obtain ⟨parts, found, missing⟩ := h
  have mixed : isMixed t = false := by
    simp only [isMixed, found, Option.any_some, List.all_eq_false]
    exact ⟨[], missing, by decide⟩
  obtain ⟨inner, enclosed, -⟩ :=
    Option.map_eq_some_iff.1 (Option.filter_eq_some_iff.1 (amounts?.eq_def t ▸ found)).1
  obtain ⟨rest, rfl⟩ : ∃ rest, t = "rgb(".toList ++ rest := ⟨_, eq_of_enclosed? enclosed⟩
  have name : names.contains ("rgb(".toList ++ rest) = false := by
    refine Bool.eq_false_iff.2 fun name => ?_
    have parenthesis : '(' ∈ "rgb(".toList ++ rest := List.mem_append_left _ (by decide)
    exact (isSmall_of_mem_names (List.contains_iff_mem.1 name) '(' parenthesis).2 rfl
  -- the first letter tells the other ways apart
  have default : "rgb(".toList ++ rest ≠ "default".toList := by
    intro same
    cases congrArg List.head? same
  have hex : isHex ("rgb(".toList ++ rest) = false := rfl
  have numbered : isNumbered ("rgb(".toList ++ rest) = false := rfl
  simp only [isWritten, default, name, hex, numbered, mixed, decide_false, Bool.or_false]

theorem read_of_lacksAmount {t : Text} (h : lacksAmount (Text.lower t) = true) :
    Color.read t = .error .amountMissing := by
  unfold Color.read
  rw [dif_neg (by rw [isWritten_of_lacksAmount h]; decide), if_pos h]

end Color

end FeedReader
