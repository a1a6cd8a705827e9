import FeedReader.Proofs.Store.Uniqueness

/-!
# References between tables

Articles and mappings name a feed, and taggings name an article and a tag. Only mappings name rows
that are stored whatever is done to a store. An article is stored even if its feed is not, and so is
a tagging of an article or with a tag that is not. All references are to stored rows in runs that
store no such row: removing a feed takes everything along that refers to it.

* `Tables.HasFeed`, `HasTag`, `Tables.Linked`: tables whose references are to rows that are stored;
* `Operation.Grounded`, `GroundedRun`: operations that refer to stored rows only;
* `Tables.Linked.changes`, `linked_step`: such operations keep references;
* `run_empty_linked`, `exists_run_not_linked`.
-/

namespace FeedReader

namespace Store

variable {t u : Tables} {id : Text}

/-! ### References -/

namespace Tables

/-- Whether a feed is stored. -/
def HasFeed (t : Tables) (id : Text) : Prop := ∃ r ∈ t.feeds, r.id = some id

/-- Whether a tag is stored. -/
def HasTag (t : Tables) (id : Text) : Prop := ∃ r ∈ t.tags, r.id = some id

instance (t : Tables) (id : Text) : Decidable (t.HasFeed id) :=
  inferInstanceAs (Decidable (∃ r ∈ t.feeds, r.id = some id))

instance (t : Tables) (id : Text) : Decidable (t.HasTag id) :=
  inferInstanceAs (Decidable (∃ r ∈ t.tags, r.id = some id))

/-- Tables in which every reference is to a row that is stored. -/
structure Linked (t : Tables) : Prop where
  articles : ∀ r ∈ t.articles, t.HasFeed r.feed
  mappings : ∀ m ∈ t.mappings, t.HasFeed m.feed
  taggings : ∀ g ∈ t.taggings, t.HasArticle g.article ∧ t.HasTag g.tag

end Tables

/-- Whether the rows that an operation refers to are stored: the feeds of the articles that it adds,
and the article and the tag that it brings together. -/
def Operation.Grounded (t : Tables) : Operation → Prop
  | .addArticles articles => ∀ a ∈ articles, ∀ feed, a.feed = some feed → t.HasFeed feed
  | .tagArticle (some article) (some tag) => t.HasArticle article ∧ t.HasTag tag
  | _ => True

/-- Whether every operation of a run refers to rows that are stored when it is done. -/
def GroundedRun (s : Store) : List Operation → Prop
  | [] => True
  | x :: ops => x.Grounded s.tables ∧ GroundedRun (s.step x).2 ops

/-! ### Removing a feed -/

/-- Other feeds are still stored after a feed has been removed. -/
theorem hasFeed_removeFeed {other : Text} (ne : other ≠ id) (h : t.HasFeed other) :
    (t.removeFeed id).HasFeed other := by
  obtain ⟨r, hr, same⟩ := h
  refine ⟨r, List.mem_filter.2 ⟨hr, ?_⟩, same⟩
  simpa [same] using ne

/-- A tagging that is left after a feed has been removed does not name an article that has gone with
the feed. -/
theorem hasArticle_of_mem_removeFeed {g : Tagging} (hg : g ∈ (t.removeFeed id).taggings)
    (h : t.HasArticle g.article) : (t.removeFeed id).HasArticle g.article := by
  obtain ⟨r, hr, same⟩ := h
  refine ⟨r, List.mem_filter.2 ⟨hr, ?_⟩, same⟩
  have kept := (List.mem_filter.1 hg).2
  simp only [Bool.not_eq_true', List.any_eq_false, Bool.and_eq_true, decide_eq_true_eq,
    not_and] at kept
  have feed : ¬ r.feed = id := fun gone => kept r hr gone same
  simpa using feed

theorem hasArticle_updateArticles (ids : List (Option Text)) {change : ArticleRow → ArticleRow}
    (same : ∀ r, (change r).id = r.id) (h : t.HasArticle id) :
    (t.updateArticles ids change).HasArticle id := by
  obtain ⟨r, hr, named⟩ := h
  refine ⟨_, List.mem_map.2 ⟨r, hr, rfl⟩, ?_⟩
  split
  · rw [same]
    exact named
  · exact named

/-! ### What operations keep -/

namespace Tables.Linked

theorem empty : Tables.empty.Linked := by constructor <;> simp [Tables.empty]

theorem insertFeed {f : NewFeed} {category : Option Text} (h : t.Linked)
    (inserted : t.insertFeed? f category = some u) : u.Linked := by
  obtain ⟨label, -, -, -, rfl⟩ := insertFeed?_eq_some_iff.1 inserted
  have stays {id : Text} : t.HasFeed id → ∃ r ∈ t.feeds ++ [⟨f.id, label, f.url, f.website⟩],
      r.id = some id := fun ⟨r, hr, same⟩ => ⟨r, List.mem_append_left _ hr, same⟩
  refine { h with articles := fun r hr => stays (h.articles r hr), mappings := ?_ }
  intro m hm
  rcases List.mem_append.1 hm with old | new
  · exact stays (h.mappings m old)
  · -- the mapping that comes with the feed names it
    refine ⟨_, List.mem_append_right _ List.mem_cons_self, ?_⟩
    unfold newMappings at new
    split at new
    · next feed category named =>
      obtain rfl := List.mem_singleton.1 new
      exact named
    · exact absurd new List.not_mem_nil

theorem removeFeed (h : t.Linked) (id : Text) : (t.removeFeed id).Linked where
  articles := by
    intro r hr
    obtain ⟨stored, other⟩ := List.mem_filter.1 hr
    exact hasFeed_removeFeed (by simpa using other) (h.articles r stored)
  mappings := by
    intro m hm
    obtain ⟨stored, other⟩ := List.mem_filter.1 hm
    exact hasFeed_removeFeed (by simpa using other) (h.mappings m stored)
  taggings := by
    intro g hg
    obtain ⟨article, tag⟩ := h.taggings g (List.mem_filter.1 hg).1
    exact ⟨hasArticle_of_mem_removeFeed hg article, tag⟩

theorem insertArticle {a : NewArticle} {date synced : LocalTime} (h : t.Linked)
    (inserted : t.insertArticle? a date synced = some u)
    (feed : ∀ feed, a.feed = some feed → t.HasFeed feed) : u.Linked := by
  obtain ⟨name, named, -, rfl⟩ := insertArticle?_eq_some_iff.1 inserted
  refine { h with articles := ?_, taggings := ?_ }
  · exact List.forall_mem_append.2 ⟨h.articles, List.forall_mem_singleton.2 (feed name named)⟩
  · intro g hg
    obtain ⟨⟨r, hr, same⟩, tag⟩ := h.taggings g hg
    exact ⟨⟨r, List.mem_append_left _ hr, same⟩, tag⟩

theorem insertTag {g : NewTag} (h : t.Linked) (inserted : t.insertTag? g = some u) :
    u.Linked := by
  obtain ⟨label, -, -, rfl⟩ := insertTag?_eq_some_iff.1 inserted
  refine { h with taggings := fun x hx => ?_ }
  obtain ⟨article, r, hr, same⟩ := h.taggings x hx
  exact ⟨article, r, List.mem_append_left _ hr, same⟩

theorem updateArticles (h : t.Linked) (ids : List (Option Text)) {change : ArticleRow → ArticleRow}
    (same : ∀ r, (change r).id = r.id ∧ (change r).feed = r.feed) :
    (t.updateArticles ids change).Linked where
  articles := by
    intro r hr
    obtain ⟨old, stored, rfl⟩ := List.mem_map.1 hr
    have feed : t.HasFeed old.feed := h.articles old stored
    split
    · rw [(same old).2]
      exact feed
    · exact feed
  mappings := h.mappings
  taggings := by
    intro g hg
    obtain ⟨article, tag⟩ := h.taggings g hg
    exact ⟨hasArticle_updateArticles ids (fun r => (same r).1) article, tag⟩

/-- The changes of an operation that refers to stored rows keep all references to stored rows. -/
theorem changes {x : Operation} (change : x.Changes t u) (grounded : x.Grounded t)
    (h : t.Linked) : u.Linked := by
  cases change with
  | addFeed inserted => exact h.insertFeed inserted
  | removeFeed _ id => exact h.removeFeed id
  | addArticle mem _ _ inserted => exact h.insertArticle inserted (grounded _ mem)
  | addTag inserted => exact h.insertTag inserted
  | tagArticle =>
    exact { h with
      taggings := List.forall_mem_append.2 ⟨h.taggings, List.forall_mem_singleton.2 grounded⟩ }
  | untagArticle => exact { h with taggings := fun g hg => h.taggings g (List.mem_filter.1 hg).1 }
  | setRead _ ids state => exact h.updateArticles ids fun _ => ⟨rfl, rfl⟩
  | setMark _ ids state => exact h.updateArticles ids fun _ => ⟨rfl, rfl⟩
  | recordSync => exact { h with }

/-- The articles of a batch keep references, as the feeds stay the same while they are stored. -/
theorem batch {articles : List NewArticle} (grounded : (Operation.addArticles articles).Grounded t)
    (h : t.Linked) : (t.insertArticles articles).2.Linked := by
  suffices both : (t.insertArticles articles).2.Linked ∧
      (Operation.addArticles articles).Grounded (t.insertArticles articles).2 from both.1
  refine insertArticles_induction (P := fun t =>
    t.Linked ∧ (Operation.addArticles articles).Grounded t) ⟨h, grounded⟩ ?_
  rintro t u change ⟨h, grounded⟩
  refine ⟨h.changes change grounded, ?_⟩
  cases change with
  | addArticle _ _ _ inserted =>
    obtain ⟨_, -, -, rfl⟩ := insertArticle?_eq_some_iff.1 inserted
    exact grounded

end Tables.Linked

/-! ### Runs -/

variable {s : Store} {ops : List Operation}

/-- An operation that refers to stored rows keeps references in the tables and in what is
permanent. -/
theorem linked_step {x : Operation} (saved : s.saved.Linked) (tables : s.tables.Linked)
    (grounded : x.Grounded s.tables) :
    (s.step x).2.saved.Linked ∧ (s.step x).2.tables.Linked := by
  have h := stepped s x
  generalize s.step x = r at h
  cases h with
  | idle | refused => exact ⟨saved, tables⟩
  | restored => exact ⟨saved, saved⟩
  | ended stored =>
    have all := tables.batch grounded
    rw [stored] at all
    exact ⟨saved, all⟩
  | kept yields =>
    suffices all : Tables.Linked _ from ⟨all, all⟩
    cases yields with
    | same => exact tables
    | change changes => exact tables.changes changes grounded
    | batch stored =>
      have all := tables.batch grounded
      rwa [stored] at all

theorem linked_run (saved : s.saved.Linked) (tables : s.tables.Linked)
    (grounded : GroundedRun s ops) : (s.run ops).tables.Linked := by
  induction ops generalizing s with
  | nil => exact tables
  | cons x ops ih =>
    obtain ⟨saved, tables⟩ := linked_step saved tables grounded.1
    exact ih saved tables grounded.2

/-- In every store that operations lead to, mappings name stored feeds. All references are to stored
rows if every operation has referred to stored rows only, and a tagging that is left after a feed has
been removed names an article that is stored if it did before. -/
theorem run_empty_linked (ops : List Operation) :
    let s := empty.run ops
    (∀ m ∈ s.tables.mappings, s.tables.HasFeed m.feed) ∧
      (GroundedRun empty ops → s.tables.Linked) ∧
      ∀ id, (∀ r ∈ (s.tables.removeFeed id).articles, r.feed ≠ id ∧
          (s.tables.HasFeed r.feed → (s.tables.removeFeed id).HasFeed r.feed)) ∧
        ∀ g ∈ (s.tables.removeFeed id).taggings,
          s.tables.HasArticle g.article → (s.tables.removeFeed id).HasArticle g.article := by
  intro s
  have unique : s.tables.Unique := unique_run .empty .empty ops
  refine ⟨unique.mapped, linked_run .empty .empty, fun id => ⟨fun r hr => ?_, fun g hg => ?_⟩⟩
  · have other : r.feed ≠ id := by simpa using (List.mem_filter.1 hr).2
    exact ⟨other, hasFeed_removeFeed other⟩
  · exact hasArticle_of_mem_removeFeed hg

/-- An article of a stored feed, with a stored tag on it. -/
theorem run_empty_linked_tagged :
    let a : NewArticle := ⟨['a'], ['f'], .ofUtc ⟨0, by decide⟩, .ofUtc ⟨0, by decide⟩, none, none,
      none, none, .unread, .unmarked⟩
    let ops : List Operation := [.addFeed (.ofFeed ⟨['f'], ['F'], none, none⟩) none,
      .addArticles [a], .addTag (.ofTag ⟨['t'], ['T'], none⟩), .tagArticle (some ['a']) (some ['t'])]
    GroundedRun empty ops ∧ (empty.run ops).tables.Linked ∧
      (empty.run ops).tables.taggings = [⟨['a'], ['t']⟩] := by
  intro a ops
  have grounded : GroundedRun empty ops := by
    refine ⟨trivial, ?_, trivial, ?_, trivial⟩
    · intro b hb feed named
      obtain rfl := List.mem_singleton.1 hb
      obtain rfl := Option.some.inj named
      decide +kernel
    · exact ⟨by decide +kernel, by decide +kernel⟩
  exact ⟨grounded, (run_empty_linked ops).2.1 grounded, by decide +kernel⟩

/-- An article is stored without its feed. -/
theorem exists_run_not_linked :
    ¬ ∀ ops : List Operation, (empty.run ops).tables.Linked := by
  intro all
  let a : NewArticle := ⟨['a'], ['f'], .ofUtc ⟨0, by decide⟩, .ofUtc ⟨0, by decide⟩, none, none,
    none, none, .unread, .unmarked⟩
  let r : ArticleRow := ⟨['a'], ['f'], ⟨0, by decide⟩, ⟨0, by decide⟩, none, none, none, none, true,
    false⟩
  have stored : r ∈ (empty.run [.addArticles [a]]).tables.articles := by decide +kernel
  exact absurd ((all [.addArticles [a]]).articles r stored) (by decide +kernel)

end Store

end FeedReader
