import FeedReader.Proofs.Query.Reading
import FeedReader.Proofs.Query.Tiling
import FeedReader.Proofs.SortOrder.Places

/-!
# Where the errors of a query point

Every error shows a token of the text, or nothing at the end of the text. The error of a sort order
counts from the start of the text between the quotes.

* `Lexeme.StandsIn.pointsInto`: a lexeme is a place to point at;
* `Error.FoundIn`: what an error is about, with `foundIn_of_readItem` and `foundIn_of_readFrom`;
* `Error.PointsInto`: what an error shows, and `Error.FoundIn.pointsInto`;
* `pointsInto_of_error`.
-/

namespace FeedReader.Query

theorem Lexeme.StandsIn.pointsInto {t : Text} {x : Lexeme} (h : x.StandsIn t) :
    t.PointsInto x.start x.text := by
  have size : x.stop - x.start = x.text.length := Nat.add_sub_cancel_left ..
  have stands : t.StandsAt x.start x.text := ⟨h.within, size ▸ h.text.symm⟩
  refine stands.pointsInto (List.ne_nil_of_length_pos ?_)
  have := h.nonempty
  omega

/-! ### What errors are about -/

/-- The error that a fault comes from, if there is one. -/
def Fault.cause? : Fault → Option SortOrder.Error
  | invalidSortOrder cause => some cause
  | _ => none

/-- Whether an error is about one of the tokens, or about one that is missing at the end. A sort
order that cannot be read stands in a quoted token. -/
inductive Error.FoundIn (length : Nat) (xs : List Lexeme) : Error → Prop
  | atEnd {fault : Fault} (plain : fault.cause? = none) : FoundIn length xs ⟨fault, length, []⟩
  | token {x : Lexeme} {fault : Fault} (mem : x ∈ xs) (plain : fault.cause? = none) :
    FoundIn length xs (x.error fault)
  | sort {x : Lexeme} {cause : SortOrder.Error} (mem : x ∈ xs) (quoted : x.token = .quoted)
    (failed : SortOrder.read (Text.inner x.text) = .error cause) :
    FoundIn length xs (x.error (.invalidSortOrder cause))

variable {length : Nat} {now : Moment} {e : Error}

theorem Error.FoundIn.mono {xs ys : List Lexeme} (h : e.FoundIn length xs) (sub : xs ⊆ ys) :
    e.FoundIn length ys := by
  cases h with
  | atEnd plain => exact .atEnd plain
  | token mem plain => exact .token (sub mem) plain
  | sort mem quoted failed => exact .sort (sub mem) quoted failed

theorem Error.foundIn_self (x : Lexeme) {fault : Fault} (plain : fault.cause? = none) :
    (x.error fault).FoundIn length [x] :=
  .token List.mem_cons_self plain

theorem foundIn_of_failAt {α : Type} {fault : Fault} {place : Option Lexeme} {xs : List Lexeme}
    (h : (failAt length fault place : Result α) = .error (.own e)) (plain : fault.cause? = none)
    (mem : ∀ x ∈ place, x ∈ xs) : e.FoundIn length xs := by
  cases place with
  | none =>
    obtain rfl := Failure.own.inj (Except.error.inj h)
    exact .atEnd plain
  | some x =>
    obtain rfl := Failure.own.inj (Except.error.inj h)
    exact .token (mem x rfl) plain

theorem foundIn_of_ofLexeme {x : Lexeme} (h : SearchTerm.ofLexeme x = .error e) :
    e.FoundIn length [x] := by
  unfold SearchTerm.ofLexeme at h
  split at h
  · split at h
    · simp at h
    · obtain rfl := Except.error.inj h
      exact Error.foundIn_self x rfl
  · simp at h
  · simp at h
  · obtain rfl := Except.error.inj h
    exact Error.foundIn_self x rfl

theorem foundIn_of_readTerm {x : Lexeme} (h : readTerm x = .error (.own e)) :
    e.FoundIn length [x] := by
  obtain ⟨e', failed, same⟩ := mapError_eq_error_iff.1 h
  obtain rfl := Failure.own.inj same
  exact foundIn_of_ofLexeme failed

theorem foundIn_of_readTags {x : Lexeme} (h : readTags x = .error (.own e)) :
    e.FoundIn length [x] := by
  unfold readTags at h
  split at h
  · simp at h
  · obtain rfl := Failure.own.inj (Except.error.inj h)
    exact Error.foundIn_self x rfl

theorem foundIn_of_readTime {x : Lexeme} (h : readTime now x = .error (.own e)) :
    e.FoundIn length [x] := by
  unfold readTime at h
  split at h
  · split at h
    · simp at h
    · obtain rfl := Failure.own.inj (Except.error.inj h)
      exact Error.foundIn_self x rfl
  · obtain rfl := Failure.own.inj (Except.error.inj h)
    exact Error.foundIn_self x rfl

theorem foundIn_of_readSort {sort : Option SortOrder} {x : Lexeme}
    (h : readSort sort x = .error (.own e)) : e.FoundIn length [x] := by
  unfold readSort at h
  split at h
  · next quoted =>
    split at h
    · obtain rfl := Failure.own.inj (Except.error.inj h)
      exact Error.foundIn_self x rfl
    · split at h
      · simp at h
      · next cause failed =>
        obtain rfl := Failure.own.inj (Except.error.inj h)
        exact .sort List.mem_cons_self quoted failed
  · obtain rfl := Failure.own.inj (Except.error.inj h)
    exact Error.foundIn_self x rfl

theorem foundIn_of_readSecond {α : Type} {f : α → Item} {fault : Fault} {read : Lexeme → Result α}
    {xs : List Lexeme} (h : readSecond length fault (fun y => (read y).map f) xs = .error (.own e))
    (plain : fault.cause? = none)
    (second : ∀ y, read y = .error (.own e) → e.FoundIn length [y]) : e.FoundIn length xs := by
  cases xs with
  | nil =>
    rw [readSecond] at h
    exact foundIn_of_failAt h plain (by simp)
  | cons y ys =>
    have failed := map_eq_error_iff.1 (map_eq_error_iff.1 h)
    exact (second y failed).mono (by simp)

theorem dayBefore_ne_own : dayBefore now ≠ .error (.own e) := by
  unfold dayBefore
  split <;> simp [Failure.outOfCalendar]

/-- An error in an item is about the token that it starts with, or about the second one. -/
theorem foundIn_of_readItem {sort : Option SortOrder} {x : Lexeme} {xs : List Lexeme}
    (h : readItem now length sort x xs = .error (.own e)) : e.FoundIn length (x :: xs) := by
  have behind : xs ⊆ x :: xs := List.subset_cons_self ..
  unfold readItem at h
  split at h
  case h_1 | h_14 | h_15 | h_16 => exact foundIn_of_failAt h rfl (by simp)
  case h_7 => exact absurd (map_eq_error_iff.1 h) dayBefore_ne_own
  case h_8 => exact (foundIn_of_readSecond h rfl fun _ => foundIn_of_readTerm).mono behind
  case h_9 => exact (foundIn_of_readSecond h rfl fun _ => foundIn_of_readTags).mono behind
  case h_10 => exact (foundIn_of_readSecond h rfl fun _ => foundIn_of_readTime).mono behind
  case h_11 => exact (foundIn_of_readSecond h rfl fun _ => foundIn_of_readSort).mono behind
  all_goals simp at h

/-- An error of a query is about one of its tokens, or about one that is missing at its end. -/
theorem foundIn_of_readFrom {negated : Bool} {p : Progress} {xs : List Lexeme}
    (h : readFrom now length negated p xs = .error (.own e)) : e.FoundIn length xs := by
  rcases error_of_readFrom h with ⟨place, mem, failed⟩ | ⟨sort, x, ys, sub, failed⟩
  · exact foundIn_of_failAt failed rfl mem
  · exact (foundIn_of_readItem failed).mono sub

theorem foundIn_of_readWith {f : Option ArticleFilter} {t : Text}
    (h : readWith f t now = .error (.own e)) : e.FoundIn t.length (tokenize t) :=
  foundIn_of_readFrom h

theorem SearchTerm.foundIn_of_read {t : Text} (h : SearchTerm.read t = .error e) :
    e.FoundIn t.length (tokenize t) := by
  unfold SearchTerm.read at h
  split at h
  · next x d found =>
    have mem : x ∈ tokenize t := by
      rw [tokenize, lexemesFrom_of_some found]
      exact List.mem_cons_self
    exact (foundIn_of_ofLexeme h).mono (by simpa using mem)
  · next c none =>
    obtain rfl := Except.error.inj h
    rw [((Cursor.isIn_start t).position_of_none none).2.1]
    exact .atEnd rfl

/-! ### What errors show -/

/-- Whether an error shows a piece of a text that stands where it says, and that is a whole token
if there is one to show. One in a sort order shows a quoted token, and the fragment of its cause
stands where that says, counted from after the opening quote. -/
structure Error.PointsInto (t : Text) (e : Error) : Prop
    extends t.PointsInto e.offset e.fragment where
  whole : e.fragment = [] ∨ ∃ x ∈ tokenize t, x.start = e.offset ∧ x.text = e.fragment
  quoted : ∀ cause, e.fault = .invalidSortOrder cause →
    ∃ x ∈ tokenize t, x.token = .quoted ∧ x.start = e.offset ∧ x.text = e.fragment ∧
      e.fragment = '"' :: (Text.inner e.fragment ++ ['"'])
  cause : ∀ cause, e.fault = .invalidSortOrder cause →
    SortOrder.read (Text.inner e.fragment) = .error cause ∧
      t.StandsAt (e.offset + 1 + cause.offset) cause.fragment

theorem Error.pointsInto_of_plain {t : Text} (place : t.PointsInto e.offset e.fragment)
    (whole : e.fragment = [] ∨ ∃ x ∈ tokenize t, x.start = e.offset ∧ x.text = e.fragment)
    (plain : e.fault.cause? = none) : e.PointsInto t where
  toPointsInto := place
  whole := whole
  quoted := fun cause same => by simp [same, Fault.cause?] at plain
  cause := fun cause same => by simp [same, Fault.cause?] at plain

theorem Error.FoundIn.pointsInto {t : Text} (h : e.FoundIn t.length (tokenize t)) :
    e.PointsInto t := by
  have stands := (tiling_lexemesFrom (Cursor.isIn_start t)).stands
  cases h with
  | atEnd plain => exact Error.pointsInto_of_plain (Text.pointsInto_end t) (.inl rfl) plain
  | token mem plain =>
    exact Error.pointsInto_of_plain (stands _ mem).pointsInto (.inr ⟨_, mem, rfl, rfl⟩) plain
  | @sort x cause mem quoted failed =>
    have place := (stands x mem).pointsInto
    have form := wellFormed_of_mem mem
    simp only [Lexeme.WellFormed, quoted] at form
    obtain ⟨s, text⟩ := form
    have inner : Text.inner x.text = s := by rw [text, Text.inner_enclosed]
    refine ⟨place, .inr ⟨x, mem, rfl, rfl⟩, ?_, ?_⟩
    · rintro cause ⟨⟩
      refine ⟨x, mem, quoted, rfl, rfl, ?_⟩
      show x.text = '"' :: (Text.inner x.text ++ ['"'])
      rw [inner, text]
    · rintro cause ⟨⟩
      refine ⟨failed, ?_⟩
      -- the text between the quotes stands in the token, and the token in the whole text
      have between : x.text.StandsAt 1 s := text ▸ Text.standsAt_enclosed '"' '"' s
      have fragment := SortOrder.pointsInto_of_read (inner ▸ failed)
      exact (place.toStandsAt.trans between).trans fragment.toStandsAt

/-- Every error in a query, a sort order or a search term shows the piece of the text that stands
where it says, and shows nothing only at the end of the text. The cause of an error in the sort
order of a query shows a piece that stands in the query too. -/
theorem pointsInto_of_error (t : Text) :
    (∀ f now e, readWith f t now = .error (.own e) → e.PointsInto t) ∧
      (∀ e, SortOrder.read t = .error e → t.PointsInto e.offset e.fragment) ∧
      ∀ e, SearchTerm.read t = .error e → e.PointsInto t :=
  ⟨fun _ _ _ h => (foundIn_of_readWith h).pointsInto, fun _ => SortOrder.pointsInto_of_read,
    fun _ h => (SearchTerm.foundIn_of_read h).pointsInto⟩

/-- The letter that a sort order cannot have is found in the query. -/
theorem pointsInto_of_error_letter :
    let t : Text := "unread  sort:\" <date é\""
    let e : Error := ⟨.invalidSortOrder ⟨.directionOrKeyExpected, 7, "é"⟩, 13, "\" <date é\""⟩
    readWith none t (.ofUtc ⟨0, by decide⟩) = .error (.own e) ∧ e.PointsInto t ∧
      t.StandsAt 21 "é" ∧
      (∃ e', SortOrder.read t = .error e' ∧ t.PointsInto e'.offset e'.fragment) ∧
      ∃ e', SearchTerm.read t = .error e' ∧ e'.PointsInto t := by
  intro t e
  have failed : readWith none t (.ofUtc ⟨0, by decide⟩) = .error (.own e) := by decide +kernel
  have unsorted : SortOrder.read t = .error ⟨.directionOrKeyExpected, 0, "u"⟩ := by decide +kernel
  have keyword : SearchTerm.read t = .error ⟨.searchTermExpected, 0, "unread"⟩ := by decide +kernel
  obtain ⟨query, sort, term⟩ := pointsInto_of_error t
  have points := query none _ e failed
  exact ⟨failed, points, (points.cause _ rfl).2, ⟨_, unsorted, sort _ unsorted⟩,
    ⟨_, keyword, term _ keyword⟩⟩

end FeedReader.Query
