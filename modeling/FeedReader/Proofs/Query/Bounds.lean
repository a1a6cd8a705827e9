import FeedReader.Proofs.Article.Utc
import FeedReader.Proofs.Query.Pushdown
import FeedReader.Proofs.Query.Reading

/-!
# The times in a query

A reader whose clock shows UTC puts only times into a filter that the calendar of UTC reaches.

* `TimeExpr.offset_of_read`: written times are read on the calendar of UTC, whatever the clock;
* `Query.offset_of_dayBefore`: the day before has the offset of the clock;
* `Query.isSome_utc?_of_readItem`: the bounds of conditions are on the calendar of UTC, if the clock
  shows UTC;
* `ArticleFilter.HasUtc.narrow`, `Query.hasUtc_of_readFrom`: reading keeps such filters;
* `SplitQuery.hasUtc_of_read`.
-/

namespace FeedReader

/-! ### Written times -/

namespace Moment

theorem isSome_utc?_ofUtc (t : LocalTime) : (ofUtc t).utc?.isSome := by simp [utc?]

/-- A time that is not ahead of UTC is one of its calendar. -/
theorem isSome_utc?_of_offset {m : Moment} (h : m.offset = 0) : m.utc?.isSome := by
  obtain ⟨wall, offset, lt⟩ := m
  obtain rfl : offset = 0 := h
  exact isSome_utc?_ofUtc wall

theorem offset_of_utc? {m u : Moment} (h : m.utc? = some u) : u.offset = 0 := by
  obtain ⟨t, -, rfl⟩ := Option.map_eq_some_iff.1 h
  rfl

theorem offset_of_shift {m u : Moment} {a : TimeExpr.Amount} (h : m.shift a = .ok u) :
    u.offset = 0 := by
  unfold shift at h
  split at h
  · split at h <;> simp at h
  · split at h
    · next found =>
      obtain rfl := Except.ok.inj h
      obtain ⟨v, -, utc⟩ := Option.bind_eq_some_iff.1 found
      exact offset_of_utc? utc
    · simp at h

end Moment

namespace TimeExpr

theorem Literal.offset_of_moment? {d : Draft} {base : Date} {m : Moment}
    (h : d.moment? base = some m) : m.offset = 0 := by
  have zone {wall : LocalTime} {offset : Duration}
      (h : (if h : offset.natAbs < Duration.day then (⟨wall, offset, h⟩ : Moment).utc? else none) =
        some m) : m.offset = 0 := by
    split at h
    · exact Moment.offset_of_utc? h
    · simp at h
  unfold Draft.moment? at h
  obtain ⟨parts, -, h⟩ := Option.bind_eq_some_iff.1 h
  obtain ⟨wall, -, h⟩ := Option.bind_eq_some_iff.1 h
  dsimp only at h
  split at h
  · split at h
    · exact zone h
    · obtain ⟨wall, -, h⟩ := Option.bind_eq_some_iff.1 h
      exact zone h
  · exact zone h

theorem Literal.offset_of_readLiteral? {t : Text} {now m : Moment}
    (h : readLiteral? t now = some m) : m.offset = 0 := by
  obtain ⟨base, -, h⟩ := Option.bind_eq_some_iff.1 h
  obtain ⟨d, -, h⟩ := Option.bind_eq_some_iff.1 h
  split at h
  · simp at h
  · exact offset_of_moment? h

/-- Written times are read on the calendar of UTC. -/
theorem offset_of_read {t : Text} {now m : Moment} (h : read t now = .ok m) : m.offset = 0 := by
  unfold read at h
  split at h
  · simp at h
  · split at h
    · split at h
      · next shifted =>
        obtain rfl := Except.ok.inj h
        exact Moment.offset_of_shift shifted
      · simp at h
      · simp at h
    · split at h
      · next found =>
        obtain rfl := Except.ok.inj h
        exact Literal.offset_of_readLiteral? found
      · simp at h

end TimeExpr

namespace Query

theorem offset_of_readTime {now m : Moment} {x : Lexeme} (h : readTime now x = .ok m) :
    m.offset = 0 := by
  unfold readTime at h
  split at h
  · split at h
    · next found =>
      obtain rfl := Except.ok.inj h
      exact TimeExpr.offset_of_read found
    · simp at h
  · simp at h

theorem after?_of_dayBefore {now m : Moment} (h : dayBefore now = .ok m) :
    now.after? (-(Duration.day : Int)) = some m := by
  unfold dayBefore at h
  split at h
  · next found =>
    obtain rfl := Except.ok.inj h
    exact found
  · simp at h

/-- The day before has the offset of the clock. -/
theorem offset_of_dayBefore {now m : Moment} (h : dayBefore now = .ok m) :
    m.offset = now.offset := by
  obtain ⟨t, -, rfl⟩ := Option.map_eq_some_iff.1 (after?_of_dayBefore h)
  rfl

/-! ### Conditions and filters -/

/-- The bounds of conditions have times in UTC, if the clock shows UTC. -/
theorem isSome_utc?_of_readItem {now : LocalTime} {length : Nat} {sort : Option SortOrder}
    {x : Lexeme} {xs rest : List Lexeme} {b : Bound} {time : Moment}
    (h : readItem (.ofUtc now) length sort x xs = .ok (.condition (.bound b time), rest)) :
    time.utc?.isSome := by
  cases origin_of_readItem h with
  | today found => exact Moment.isSome_utc?_of_offset (offset_of_dayBefore found)
  | bound b mem found => exact Moment.isSome_utc?_of_offset (offset_of_readTime found)

end Query

namespace ArticleFilter

theorem hasUtc_empty : empty.HasUtc := by
  intro b m h
  cases b <;> simp [bound?, empty] at h

theorem bound?_setBound (f : ArticleFilter) (time : Moment) (b c : Bound) :
    (f.setBound time b).bound? c = if c = b then some time else f.bound? c := by
  cases b <;> cases c <;> rfl

theorem isSome_utc?_narrower {s t : Moment} (b : Bound) (hs : s.utc?.isSome) (ht : t.utc?.isSome) :
    (b.narrower s t).utc?.isSome := by
  cases b <;> simp only [Bound.narrower, Moment.latest, Moment.earliest] <;> split <;> assumption

theorem HasUtc.narrow {f : ArticleFilter} (h : f.HasUtc) {b : Bound} {time : Moment}
    (ht : time.utc?.isSome) : (f.narrow b time).HasUtc := by
  intro c m hm
  rw [ArticleFilter.narrow, bound?_setBound] at hm
  split at hm
  · obtain rfl := Option.some.inj hm
    split
    · next current found => exact isSome_utc?_narrower b (h b current found) ht
    · exact ht
  · exact h c m hm

end ArticleFilter

namespace Query

theorem Progress.hasUtc_take {p : Progress} {negated : Bool} {item : Item}
    (h : ∀ f, p.filter = some f → f.HasUtc)
    (bound : ∀ b time, item = .condition (.bound b time) → time.utc?.isSome) :
    ∀ f, (p.take negated item).filter = some f → f.HasUtc := by
  intro f hf
  cases item with
  | sort o => exact h f hf
  | condition atom =>
    cases hp : p.filter with
    | none =>
      rw [Progress.take, Progress.add_of_none hp] at hf
      exact h f hf
    | some g =>
      have old := h g hp
      cases atom with
      | read s | mark s =>
        simp only [Progress.take, Progress.add, hp] at hf
        exact Option.some.inj hf ▸ old
      | bound b time =>
        simp only [Progress.take, Progress.add, hp] at hf
        exact Option.some.inj hf ▸ old.narrow (bound b time rfl)
      | _ =>
        simp only [Progress.take, Progress.add, hp] at hf
        exact h f hf

/-- Reading keeps a filter whose times the calendar of UTC reaches. -/
theorem hasUtc_of_readFrom {now : LocalTime} {length : Nat} {negated : Bool} {p q : Progress}
    {xs : List Lexeme} (h : ∀ f, p.filter = some f → f.HasUtc)
    (found : readFrom (.ofUtc now) length negated p xs = .ok q) :
    ∀ f, q.filter = some f → f.HasUtc := by
  induction found using reading_induction with
  | done => exact h
  | negate _ _ _ ih => exact ih h
  | @item negated p x taken ys item _ takes _ _ ih =>
    refine ih (Progress.hasUtc_take h ?_)
    rintro b time rfl
    exact isSome_utc?_of_readItem (takes.reads length ys)

end Query

/-- A query read at a time in UTC has a filter that the store can evaluate. -/
theorem SplitQuery.hasUtc_of_read {t : Text} {now : LocalTime} {q : SplitQuery}
    (h : SplitQuery.read t (.ofUtc now) = .ok q) : q.filter.HasUtc := by
  obtain ⟨p, found, rfl⟩ := map_eq_ok_iff.1 h
  have kept := Query.hasUtc_of_readFrom (by
    rintro f ⟨⟩
    exact ArticleFilter.hasUtc_empty) found
  cases hf : p.filter with
  | none => exact ArticleFilter.hasUtc_empty
  | some f => exact kept f hf

end FeedReader
