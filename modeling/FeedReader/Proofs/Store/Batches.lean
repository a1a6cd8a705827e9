import FeedReader.Proofs.Article.Utc
import FeedReader.Store
import Mathlib.Data.Finset.Card
import Mathlib.Data.List.Dedup

/-!
# Batches of articles

A batch may hold several versions of an article, and articles that are stored already. Only the
first version is ever stored, so that it does not matter how articles are divided into batches.

* `ArticleRow.ofArticle`: how an article is stored; `Tables.HasArticle`: whether one is;
* `Tables.newArticles`: what is new in a batch; `Tables.withArticles`: the tables with these
  articles behind the others;
* `insertArticles_eq`: a batch stores what is new in it and counts it;
* `newArticles_append`: what is new in a batch is what is new in its first part, and in the rest of
  it once this part is stored;
* `filter_newArticles`, `length_newArticles`: the first version of each article, and one for each
  identifier;
* `addArticles_keeps_first`.
-/

namespace FeedReader

namespace Store

/-- The row in which an article is stored. -/
def ArticleRow.ofArticle (a : Article) : ArticleRow :=
  { id := some a.id, feed := a.feed, date := a.date.utcWall, synced := a.synced.utcWall,
    title := a.title, summary := a.summary, author := a.author, url := a.url,
    unread := a.read = .unread, marked := a.mark = .marked }

namespace Tables

/-- Whether an article is stored. -/
def HasArticle (t : Tables) (id : Text) : Prop := ∃ r ∈ t.articles, r.id = some id

instance (t : Tables) (id : Text) : Decidable (t.HasArticle id) :=
  inferInstanceAs (Decidable (∃ r ∈ t.articles, r.id = some id))

/-- What is new in a batch: of the articles with one identifier the first one, unless an article
with this identifier is stored. -/
def newArticles (t : Tables) (batch : List Article) : List Article :=
  (batch.filter fun a => ¬ t.HasArticle a.id).eraseDupsBy fun a b => a.id == b.id

/-- The tables with more articles. -/
def withArticles (t : Tables) (articles : List Article) : Tables :=
  { t with articles := t.articles ++ articles.map .ofArticle }

end Tables

variable {t : Tables} {a : Article} {id : Text} {articles batch rest : List Article}

/-! ### Tables with more articles -/

theorem withArticles_nil : t.withArticles [] = t := by
  simp [Tables.withArticles]

theorem withArticles_withArticles (more : List Article) :
    (t.withArticles articles).withArticles more = t.withArticles (articles ++ more) := by
  simp [Tables.withArticles]

theorem hasArticle_withArticles :
    (t.withArticles articles).HasArticle id ↔ t.HasArticle id ∨ ∃ a ∈ articles, a.id = id := by
  simp [Tables.HasArticle, Tables.withArticles, ArticleRow.ofArticle, or_and_right, exists_or]

/-- An article is stored unless there is one with its identifier. -/
theorem insertArticle?_ofArticle (t : Tables) (a : Article) :
    t.insertArticle? (.ofArticle a) a.date.utcWall a.synced.utcWall =
      if t.HasArticle a.id then none else some (t.withArticles [a]) := by
  have taken :
      (t.articles.any fun r => sameText (some a.id) r.id) = decide (t.HasArticle a.id) := by
    rw [Bool.eq_iff_iff, List.any_eq_true, decide_eq_true_iff, Tables.HasArticle]
    simp [sameText, eq_comm]
  simp only [Tables.insertArticle?, NewArticle.ofArticle, taken, decide_eq_true_eq]
  rfl

/-! ### What is new -/

theorem newArticles_nil : t.newArticles [] = [] := rfl

theorem newArticles_cons_of_stored (stored : t.HasArticle a.id) :
    t.newArticles (a :: rest) = t.newArticles rest := by
  rw [Tables.newArticles, List.filter_cons_of_neg (by simpa using stored), Tables.newArticles]

/-- An article that is new hides all later ones with its identifier, as a stored one does. -/
theorem newArticles_cons_of_new (new : ¬ t.HasArticle a.id) :
    t.newArticles (a :: rest) = a :: (t.withArticles [a]).newArticles rest := by
  rw [Tables.newArticles, List.filter_cons_of_pos (by simpa using new), List.eraseDupsBy_cons,
    List.filter_filter, Tables.newArticles]
  congr 2
  refine List.filter_congr fun b _ => ?_
  have hidden : (t.withArticles [a]).HasArticle b.id ↔ t.HasArticle b.id ∨ b.id = a.id := by
    rw [hasArticle_withArticles]
    simp [eq_comm]
  rw [Bool.eq_iff_iff]
  simp [hidden, and_comm]

/-- What a batch stores: the articles that are new in it, in their order. -/
theorem insertArticles_eq (utc : ∀ a ∈ batch, a.HasUtc) :
    t.insertArticles (batch.map .ofArticle) =
      (some (t.newArticles batch).length, t.withArticles (t.newArticles batch)) := by
  induction batch generalizing t with
  | nil => simp [Tables.insertArticles, newArticles_nil, withArticles_nil]
  | cons a rest ih =>
    obtain ⟨⟨date, synced⟩, later⟩ := List.forall_mem_cons.1 utc
    have date : (NewArticle.ofArticle a).date.utc? = some (.ofUtc a.date.utcWall) :=
      Moment.utc?_eq date
    have synced : (NewArticle.ofArticle a).synced.utc? = some (.ofUtc a.synced.utcWall) :=
      Moment.utc?_eq synced
    rw [List.map_cons, Tables.insertArticles, date, synced]
    simp only [Moment.ofUtc, insertArticle?_ofArticle]
    by_cases stored : t.HasArticle a.id
    · simp only [if_pos stored, ih later, newArticles_cons_of_stored stored]
    · simp only [if_neg stored, ih later, newArticles_cons_of_new stored, withArticles_withArticles]
      rfl

/-- Articles that differ from one another and from those that are stored are all new. -/
theorem newArticles_eq_self (fresh : ∀ a ∈ batch, ¬ t.HasArticle a.id)
    (ids : (batch.map (·.id)).Nodup) : t.newArticles batch = batch := by
  induction batch generalizing t with
  | nil => rfl
  | cons a rest ih =>
    obtain ⟨new, later⟩ := List.forall_mem_cons.1 fresh
    obtain ⟨other, ids⟩ := List.nodup_cons.1 ids
    rw [newArticles_cons_of_new new, ih ?_ ids]
    intro b hb stored
    rcases hasArticle_withArticles.1 stored with old | ⟨c, hc, same⟩
    · exact later b hb old
    · obtain rfl := List.mem_singleton.1 hc
      exact other (List.mem_map.2 ⟨b, hb, same.symm⟩)

theorem newArticles_append (xs ys : List Article) :
    t.newArticles (xs ++ ys) =
      t.newArticles xs ++ (t.withArticles (t.newArticles xs)).newArticles ys := by
  induction xs generalizing t with
  | nil => rw [List.nil_append, newArticles_nil, withArticles_nil, List.nil_append]
  | cons a xs ih =>
    by_cases stored : t.HasArticle a.id
    · rw [List.cons_append, newArticles_cons_of_stored stored,
        newArticles_cons_of_stored stored, ih]
    · rw [List.cons_append, newArticles_cons_of_new stored, newArticles_cons_of_new stored, ih,
        withArticles_withArticles]
      rfl

/-- Of the articles with an identifier the first one is new, unless one is stored. -/
theorem filter_newArticles (id : Text) :
    (t.newArticles batch).filter (·.id = id) =
      if t.HasArticle id then [] else (batch.find? (·.id = id)).toList := by
  induction batch generalizing t with
  | nil => simp [newArticles_nil]
  | cons a rest ih =>
    by_cases stored : t.HasArticle a.id
    · rw [newArticles_cons_of_stored stored, ih]
      by_cases same : a.id = id
      · rw [if_pos (same ▸ stored), if_pos (same ▸ stored)]
      · rw [List.find?_cons_of_neg (by simpa using same)]
    · rw [newArticles_cons_of_new stored]
      by_cases same : a.id = id
      · have hidden : (t.withArticles [a]).HasArticle id :=
          hasArticle_withArticles.2 (.inr ⟨a, by simp, same⟩)
        rw [List.filter_cons_of_pos (by simpa using same), ih, if_pos hidden,
          if_neg (same ▸ stored), List.find?_cons_of_pos (by simpa using same)]
        rfl
      · rw [List.filter_cons_of_neg (by simpa using same), ih,
          List.find?_cons_of_neg (by simpa using same)]
        simp [hasArticle_withArticles, same]

theorem mem_map_newArticles :
    id ∈ (t.newArticles batch).map (·.id) ↔ id ∈ batch.map (·.id) ∧ ¬ t.HasArticle id := by
  have first := @filter_newArticles t batch id
  have found : id ∈ (t.newArticles batch).map (·.id) ↔
      (t.newArticles batch).filter (·.id = id) ≠ [] := by simp [List.filter_eq_nil_iff]
  rw [found, first]
  by_cases stored : t.HasArticle id
  · simp [stored]
  · simp [stored]

theorem nodup_newArticles : ((t.newArticles batch).map (·.id)).Nodup := by
  rw [List.nodup_iff_count_le_one]
  intro id
  have count : ((t.newArticles batch).map (·.id)).count id =
      ((t.newArticles batch).filter (·.id = id)).length := by
    rw [List.count_eq_countP, List.countP_map, List.countP_eq_length_filter]
    exact congrArg _ (List.filter_congr fun a _ => Bool.beq_eq_decide_eq a.id id)
  rw [count, filter_newArticles]
  split
  · exact Nat.zero_le _
  · cases batch.find? (·.id = id) <;> simp

/-- As many articles are new as there are identifiers that are not stored. -/
theorem length_newArticles :
    (t.newArticles batch).length =
      ((batch.map (·.id)).toFinset.filter fun id => ¬ t.HasArticle id).card := by
  rw [← List.length_map (·.id), ← List.toFinset_card_of_nodup nodup_newArticles]
  congr 1
  ext id
  rw [List.mem_toFinset, mem_map_newArticles, Finset.mem_filter, List.mem_toFinset]

/-- Nothing is new in a batch once it is stored. -/
theorem newArticles_withArticles (batch : List Article) :
    (t.withArticles (t.newArticles batch)).newArticles batch = [] := by
  have all : ∀ a ∈ batch, (t.withArticles (t.newArticles batch)).HasArticle a.id := by
    intro a ha
    rw [hasArticle_withArticles]
    by_cases stored : t.HasArticle a.id
    · exact .inl stored
    · exact .inr (List.mem_map.1 (mem_map_newArticles.2 ⟨List.mem_map_of_mem ha, stored⟩))
  rw [Tables.newArticles, List.filter_eq_nil_iff.2 (by simpa using all)]
  rfl

/-! ### Adding a batch -/

theorem addArticles_eq (s : Store) {batch : List Article} (utc : ∀ a ∈ batch, a.HasUtc) :
    s.addArticles (batch.map .ofArticle) =
      (.ok (s.tables.newArticles batch).length,
        saving (s.tables.withArticles (s.tables.newArticles batch))) := by
  rw [addArticles, insertArticles_eq utc]

/-- The rows with an identifier are left alone by a batch if there are any, and else are that of the
first article with this identifier. -/
theorem filter_withArticles (batch : List Article) (id : Text) :
    (t.withArticles (t.newArticles batch)).articles.filter (·.id = some id) =
      if t.HasArticle id then t.articles.filter (·.id = some id)
      else ((batch.find? (·.id = id)).map .ofArticle).toList := by
  have rows : ((t.newArticles batch).map ArticleRow.ofArticle).filter (·.id = some id) =
      ((t.newArticles batch).filter (·.id = id)).map .ofArticle := by
    rw [List.filter_map]
    exact congrArg _ (List.filter_congr fun a _ => by simp [ArticleRow.ofArticle])
  rw [Tables.withArticles, List.filter_append, rows, filter_newArticles]
  by_cases stored : t.HasArticle id
  · simp [stored]
  · have none_stored : t.articles.filter (·.id = some id) = [] :=
      List.filter_eq_nil_iff.2 fun r hr same => stored ⟨r, hr, of_decide_eq_true same⟩
    simp [stored, none_stored, Option.toList_map]

/-- A batch of articles is stored behind the articles there are, which stay as they are, and nothing
else changes. It stores the first article with each identifier that is not stored, and counts these
identifiers. Two batches store the same as both in one, and a batch that is added again stores
nothing. -/
theorem addArticles_keeps_first (s : Store) {xs ys : List Article} (hx : ∀ a ∈ xs, a.HasUtc)
    (hy : ∀ a ∈ ys, a.HasUtc) :
    let new := s.tables.newArticles xs
    let t := saving { s.tables with
      articles := s.tables.articles ++ new.map .ofArticle }
    s.addArticles (xs.map .ofArticle) =
        (.ok ((xs.map (·.id)).toFinset.filter fun id => ¬ s.tables.HasArticle id).card, t) ∧
      (∀ id, t.tables.articles.filter (·.id = some id) =
        if s.tables.HasArticle id then s.tables.articles.filter (·.id = some id)
        else ((xs.find? (·.id = id)).map .ofArticle).toList) ∧
      (∃ n m u, s.addArticles (xs.map .ofArticle) = (.ok n, t) ∧
        t.addArticles (ys.map .ofArticle) = (.ok m, u) ∧
        s.addArticles ((xs ++ ys).map .ofArticle) = (.ok (n + m), u)) ∧
      t.addArticles (xs.map .ofArticle) = (.ok 0, t) := by
  intro new t
  have added : s.addArticles (xs.map .ofArticle) = (.ok new.length, t) := s.addArticles_eq hx
  refine ⟨?_, filter_withArticles xs, ?_, ?_⟩
  · rw [added, length_newArticles]
  · refine ⟨_, _, _, added, t.addArticles_eq hy, ?_⟩
    rw [s.addArticles_eq (List.forall_mem_append.2 ⟨hx, hy⟩), newArticles_append,
      List.length_append, ← withArticles_withArticles]
    rfl
  · rw [t.addArticles_eq hx]
    have none_new : t.tables.newArticles xs = [] := newArticles_withArticles xs
    rw [none_new, withArticles_nil]
    rfl

/-- A batch with another version of a stored article and with two versions of a new one. -/
theorem addArticles_keeps_first_versions :
    let a : Article := ⟨['a'], ['f'], .ofUtc ⟨0, by decide⟩, .ofUtc ⟨0, by decide⟩, none, none,
      none, none, .read, .marked⟩
    let b : Article := { a with id := ['b'], date := ⟨⟨60, by decide⟩, 50, by decide⟩ }
    let s := (empty.addArticles [.ofArticle a]).2
    let batch := [{ a with read := .unread }, b, { b with title := some ['B'] }]
    let t := (s.addArticles (batch.map .ofArticle)).2
    (∀ x ∈ batch, x.HasUtc) ∧ (s.addArticles (batch.map .ofArticle)).1 = .ok 1 ∧
      t.tables.articles = [.ofArticle a, .ofArticle b] ∧
      t.addArticles (batch.map .ofArticle) = (.ok 0, t) := by
  intro a b s batch t
  have utc : ∀ x ∈ batch, x.HasUtc := by
    simp only [batch, List.mem_cons, List.not_mem_nil, or_false, forall_eq_or_imp, forall_eq]
    exact ⟨⟨by decide, by decide⟩, ⟨by decide, by decide⟩, ⟨by decide, by decide⟩⟩
  obtain ⟨added, -, -, again⟩ := s.addArticles_keeps_first utc utc
  have after : t = _ := congrArg Prod.snd added
  refine ⟨utc, ?_, ?_, ?_⟩
  · rw [added]
    decide +kernel
  · rw [after]
    decide +kernel
  · rw [after]
    exact again

end Store

end FeedReader
