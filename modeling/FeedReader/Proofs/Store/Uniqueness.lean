import FeedReader.Proofs.Store.Fill
import FeedReader.Proofs.Store.Run

/-!
# Nothing is stored twice

In every store that operations lead to, failed ones included, no two rows of a table have the same
identifier, address, label or pair, and only feeds that are stored have a category. So a record is
refused exactly if one of its keys is taken.

* `Tables.Unique`: tables in which no key stands twice;
* `insertFeed?_eq_some_iff`, `insertArticle?_eq_some_iff`, `insertTag?_eq_some_iff`: when a row is
  stored, and what the tables are then;
* `Tables.Unique.changes`, `unique_run`: the changes that operations make keep keys unique;
* `Operation.Identified`, `Tables.Identified`: records and rows with identifiers;
* `addFeed_ofFeed`, `addTag_ofTag`, `fst_tagArticle`, `lastSync_recordSync`: the answers in such a
  store;
* `run_empty_unique`.
-/

namespace FeedReader

namespace Store

variable {t u : Tables}

/-! ### Keys -/

section Keys

variable {α β : Type} {key : α → Option β} {l : List α} {a : α}

theorem nodup_append_singleton (h : l.Nodup) (new : a ∉ l) : (l ++ [a]).Nodup := by
  rw [← List.concat_eq_append]
  exact h.concat new

/-- A key that is new stays the only one of its kind. -/
theorem nodup_filterMap_append (h : (l.filterMap key).Nodup)
    (new : ∀ b ∈ l, ∀ k, key a = some k → key b ≠ some k) :
    ((l ++ [a]).filterMap key).Nodup := by
  rw [List.filterMap_append]
  cases hk : key a with
  | none => simpa [hk] using h
  | some k =>
    rw [List.filterMap_cons_some hk, List.filterMap_nil]
    refine nodup_append_singleton h fun old => ?_
    obtain ⟨b, hb, same⟩ := List.mem_filterMap.1 old
    exact new b hb k hk same

theorem nodup_filterMap_filter (h : (l.filterMap key).Nodup) (p : α → Bool) :
    ((l.filter p).filterMap key).Nodup :=
  h.sublist (List.filter_sublist.filterMap key)

/-- Where every row has a key, the keys differ as columns. -/
theorem nodup_map_of_filterMap (h : (l.filterMap key).Nodup) (all : ∀ b ∈ l, (key b).isSome) :
    (l.map key).Nodup := by
  have columns : l.map key = (l.filterMap key).map some := by
    rw [List.map_filterMap]
    induction l with
    | nil => rfl
    | cons b l ih =>
      obtain ⟨hb, hl⟩ := List.forall_mem_cons.1 all
      obtain ⟨k, hk⟩ := Option.isSome_iff_exists.1 hb
      rw [List.filterMap_cons_some (b := some k) (by simp [hk]), List.map_cons, hk]
      refine congrArg _ (ih ?_ hl)
      rw [List.filterMap_cons_some hk] at h
      exact h.of_cons
  rw [columns]
  exact h.map (Option.some_injective β)

end Keys

/-! ### Storing a row -/

/-- The mapping of a feed that is put in a category. -/
def newMappings : Option Text → Option Text → List Mapping
  | some feed, some category => [⟨feed, category⟩]
  | _, _ => []

theorem insertMapping?_eq_some_iff {feed category : Option Text} :
    t.insertMapping? feed category = some u ↔
      (∀ c, category = some c → ∃ f, feed = some f ∧ (⟨f, c⟩ : Mapping) ∉ t.mappings) ∧
        u = { t with mappings := t.mappings ++ newMappings feed category } := by
  cases category with
  | none =>
    simp only [Tables.insertMapping?, Option.some.injEq, reduceCtorEq, false_implies, implies_true,
      true_and, newMappings, List.append_nil]
    exact eq_comm
  | some c =>
    cases feed with
    | none => simp [Tables.insertMapping?]
    | some f =>
      by_cases old : (⟨f, c⟩ : Mapping) ∈ t.mappings
      · simp [Tables.insertMapping?, old]
      · simp [Tables.insertMapping?, newMappings, old, eq_comm]

theorem insertFeed?_eq_some_iff {f : NewFeed} {category : Option Text} :
    t.insertFeed? f category = some u ↔
      ∃ label, f.label = some label ∧
        (∀ r ∈ t.feeds, sameText f.id r.id = false ∧ sameText f.url r.url = false) ∧
        (∀ c, category = some c → ∃ id, f.id = some id ∧ (⟨id, c⟩ : Mapping) ∉ t.mappings) ∧
        u = { t with
          feeds := t.feeds ++ [⟨f.id, label, f.url, f.website⟩]
          mappings := t.mappings ++ newMappings f.id category } := by
  unfold Tables.insertFeed?
  cases hl : f.label with
  | none => simp
  | some label =>
    by_cases taken : t.feeds.any fun r => sameText f.id r.id || sameText f.url r.url
    · simp only [if_pos taken, reduceCtorEq, false_iff]
      rintro ⟨_, -, new, -⟩
      obtain ⟨r, hr, same⟩ := List.any_eq_true.1 taken
      simp [(new r hr).1, (new r hr).2] at same
    · have new : ∀ r ∈ t.feeds, sameText f.id r.id = false ∧ sameText f.url r.url = false := by
        simpa using taken
      simp only [if_neg taken, insertMapping?_eq_some_iff, Option.some.injEq, exists_eq_left']
      exact ⟨fun h => ⟨new, h⟩, fun h => h.2⟩

theorem insertArticle?_eq_some_iff {a : NewArticle} {date synced : LocalTime} :
    t.insertArticle? a date synced = some u ↔
      ∃ feed, a.feed = some feed ∧ (∀ r ∈ t.articles, sameText a.id r.id = false) ∧
        u = { t with articles := t.articles ++
          [⟨a.id, feed, date, synced, a.title, a.summary, a.author, a.url, a.read = .unread,
            a.mark = .marked⟩] } := by
  unfold Tables.insertArticle?
  cases hf : a.feed with
  | none => simp
  | some feed =>
    by_cases taken : t.articles.any fun r => sameText a.id r.id
    · simp only [if_pos taken, reduceCtorEq, false_iff]
      rintro ⟨_, -, new, -⟩
      obtain ⟨r, hr, same⟩ := List.any_eq_true.1 taken
      simp [new r hr] at same
    · have new : ∀ r ∈ t.articles, sameText a.id r.id = false := by simpa using taken
      simp only [if_neg taken, Option.some.injEq, exists_eq_left', eq_comm (b := u)]
      exact ⟨fun h => ⟨new, h⟩, fun h => h.2⟩

theorem insertTag?_eq_some_iff {g : NewTag} :
    t.insertTag? g = some u ↔
      ∃ label, g.label = some label ∧
        (∀ r ∈ t.tags, sameText g.id r.id = false ∧ r.label ≠ label) ∧
        u = { t with tags := t.tags ++ [⟨g.id, label, g.color⟩] } := by
  unfold Tables.insertTag?
  cases hl : g.label with
  | none => simp
  | some label =>
    by_cases taken : t.tags.any fun r => sameText g.id r.id || r.label = label
    · simp only [if_pos taken, reduceCtorEq, false_iff]
      rintro ⟨_, same_label, new, -⟩
      obtain rfl := Option.some.inj same_label
      obtain ⟨r, hr, same⟩ := List.any_eq_true.1 taken
      simp [(new r hr).1, (new r hr).2] at same
    · have new : ∀ r ∈ t.tags, sameText g.id r.id = false ∧ r.label ≠ label := by
        simpa using taken
      simp only [if_neg taken, Option.some.injEq, exists_eq_left', eq_comm (b := u)]
      exact ⟨fun h => ⟨new, h⟩, fun h => h.2⟩

/-! ### Unique keys -/

/-- Tables in which no key stands twice and only feeds that are stored have a category. A missing
identifier or address is no key. -/
structure Tables.Unique (t : Tables) : Prop where
  feed_ids : (t.feeds.filterMap (·.id)).Nodup
  feed_urls : (t.feeds.filterMap (·.url)).Nodup
  article_ids : (t.articles.filterMap (·.id)).Nodup
  tag_ids : (t.tags.filterMap (·.id)).Nodup
  tag_labels : (t.tags.map (·.label)).Nodup
  mappings : t.mappings.Nodup
  taggings : t.taggings.Nodup
  mapped : ∀ m ∈ t.mappings, ∃ r ∈ t.feeds, r.id = some m.feed

namespace Tables.Unique

theorem empty : Tables.empty.Unique := by constructor <;> simp [Tables.empty]

theorem ne_of_sameText {a b : Option Text} (h : sameText a b = false) (k : Text)
    (ha : a = some k) : b ≠ some k := by
  intro hb
  simp [ha, hb, sameText] at h

theorem insertFeed {f : NewFeed} {category : Option Text} (h : t.Unique)
    (inserted : t.insertFeed? f category = some u) : u.Unique := by
  obtain ⟨label, -, new, place, rfl⟩ := insertFeed?_eq_some_iff.1 inserted
  refine { h with feed_ids := ?_, feed_urls := ?_, mappings := ?_, mapped := ?_ }
  · exact nodup_filterMap_append h.feed_ids fun r hr => ne_of_sameText (new r hr).1
  · exact nodup_filterMap_append h.feed_urls fun r hr => ne_of_sameText (new r hr).2
  · cases category with
    | none => simpa [newMappings] using h.mappings
    | some c =>
      obtain ⟨id, hid, fresh⟩ := place c rfl
      rw [hid, newMappings]
      exact nodup_append_singleton h.mappings fresh
  · intro m hm
    rcases List.mem_append.1 hm with old | added
    · obtain ⟨r, hr, same⟩ := h.mapped m old
      exact ⟨r, List.mem_append_left _ hr, same⟩
    · refine ⟨_, List.mem_append_right _ List.mem_cons_self, ?_⟩
      unfold newMappings at added
      split at added
      · next id c hid =>
        obtain rfl := List.mem_singleton.1 added
        exact hid
      · exact absurd added List.not_mem_nil

theorem insertArticle {a : NewArticle} {date synced : LocalTime} (h : t.Unique)
    (inserted : t.insertArticle? a date synced = some u) : u.Unique := by
  obtain ⟨feed, -, new, rfl⟩ := insertArticle?_eq_some_iff.1 inserted
  refine { h with article_ids := ?_ }
  exact nodup_filterMap_append h.article_ids fun r hr => ne_of_sameText (new r hr)

theorem insertTag {g : NewTag} (h : t.Unique) (inserted : t.insertTag? g = some u) : u.Unique := by
  obtain ⟨label, -, new, rfl⟩ := insertTag?_eq_some_iff.1 inserted
  refine { h with tag_ids := ?_, tag_labels := ?_ }
  · exact nodup_filterMap_append h.tag_ids fun r hr => ne_of_sameText (new r hr).1
  · rw [List.map_append, List.map_singleton]
    refine nodup_append_singleton h.tag_labels fun old => ?_
    obtain ⟨r, hr, same⟩ := List.mem_map.1 old
    exact (new r hr).2 same

/-- A feed that is removed leaves no mapping behind. -/
theorem removeFeed (h : t.Unique) (id : Text) : (t.removeFeed id).Unique := by
  refine { h with
    feed_ids := nodup_filterMap_filter h.feed_ids _
    feed_urls := nodup_filterMap_filter h.feed_urls _
    article_ids := nodup_filterMap_filter h.article_ids _
    mappings := h.mappings.filter _
    taggings := h.taggings.filter _
    mapped := ?_ }
  intro m hm
  obtain ⟨stored, other⟩ := List.mem_filter.1 hm
  obtain ⟨r, hr, same⟩ := h.mapped m stored
  refine ⟨r, List.mem_filter.2 ⟨hr, ?_⟩, same⟩
  simpa [same] using other

theorem updateArticles (h : t.Unique) (ids : List (Option Text)) {change : ArticleRow → ArticleRow}
    (same : ∀ r, (change r).id = r.id) : (t.updateArticles ids change).Unique := by
  refine { h with article_ids := ?_ }
  have kept : (t.updateArticles ids change).articles.filterMap (·.id) =
      t.articles.filterMap (·.id) := by
    rw [Tables.updateArticles, List.filterMap_map]
    congr 1
    funext r
    simp only [Function.comp]
    split
    · exact same r
    · rfl
  rw [kept]
  exact h.article_ids

/-- Every change that an operation makes keeps keys unique. -/
theorem changes {x : Operation} (change : x.Changes t u) (h : t.Unique) : u.Unique := by
  cases change with
  | addFeed inserted => exact h.insertFeed inserted
  | removeFeed _ id => exact h.removeFeed id
  | addArticle _ _ _ inserted => exact h.insertArticle inserted
  | addTag inserted => exact h.insertTag inserted
  | tagArticle new => exact { h with taggings := nodup_append_singleton h.taggings new }
  | untagArticle => exact { h with taggings := h.taggings.filter _ }
  | setRead _ ids state => exact h.updateArticles ids fun _ => rfl
  | setMark _ ids state => exact h.updateArticles ids fun _ => rfl
  | recordSync => exact { h with }

end Tables.Unique

/-! ### Rows with identifiers -/

/-- Whether the records that an operation stores have identifiers. -/
def Operation.Identified : Operation → Prop
  | .addFeed f _ => f.id.isSome
  | .addArticles articles => ∀ a ∈ articles, a.id.isSome
  | .addTag g => g.id.isSome
  | _ => True

/-- Tables in which every feed, every article and every tag has an identifier. -/
structure Tables.Identified (t : Tables) : Prop where
  feeds : ∀ r ∈ t.feeds, r.id.isSome
  articles : ∀ r ∈ t.articles, r.id.isSome
  tags : ∀ r ∈ t.tags, r.id.isSome

namespace Tables.Identified

theorem empty : Tables.empty.Identified := ⟨by simp [Tables.empty], by simp [Tables.empty],
  by simp [Tables.empty]⟩

theorem updateArticles (h : t.Identified) (ids : List (Option Text))
    {change : ArticleRow → ArticleRow} (same : ∀ r, (change r).id = r.id) :
    (t.updateArticles ids change).Identified := by
  refine { h with articles := ?_ }
  intro r hr
  obtain ⟨old, stored, rfl⟩ := List.mem_map.1 hr
  split
  · rw [same]
    exact h.articles old stored
  · exact h.articles old stored

theorem changes {x : Operation} (identified : x.Identified) (change : x.Changes t u)
    (h : t.Identified) : u.Identified := by
  cases change with
  | addFeed inserted =>
    obtain ⟨label, -, -, -, rfl⟩ := insertFeed?_eq_some_iff.1 inserted
    exact { h with
      feeds := List.forall_mem_append.2 ⟨h.feeds, List.forall_mem_singleton.2 identified⟩ }
  | removeFeed _ id =>
    exact { h with
      feeds := fun r hr => h.feeds r (List.mem_filter.1 hr).1
      articles := fun r hr => h.articles r (List.mem_filter.1 hr).1 }
  | addArticle mem _ _ inserted =>
    obtain ⟨feed, -, -, rfl⟩ := insertArticle?_eq_some_iff.1 inserted
    exact { h with
      articles := List.forall_mem_append.2
        ⟨h.articles, List.forall_mem_singleton.2 (identified _ mem)⟩ }
  | addTag inserted =>
    obtain ⟨label, -, -, rfl⟩ := insertTag?_eq_some_iff.1 inserted
    exact { h with
      tags := List.forall_mem_append.2 ⟨h.tags, List.forall_mem_singleton.2 identified⟩ }
  | tagArticle | untagArticle | recordSync => exact { h with }
  | setRead _ ids state => exact h.updateArticles ids fun _ => rfl
  | setMark _ ids state => exact h.updateArticles ids fun _ => rfl

end Tables.Identified

/-! ### Runs -/

theorem unique_run {s : Store} (saved : s.saved.Unique) (tables : s.tables.Unique)
    (ops : List Operation) : (s.run ops).tables.Unique :=
  (run_induction saved tables fun _ _ _ _ change => Tables.Unique.changes change).2

theorem identified_run {s : Store} {ops : List Operation} (saved : s.saved.Identified)
    (tables : s.tables.Identified) (identified : ∀ x ∈ ops, x.Identified) :
    (s.run ops).tables.Identified :=
  (run_induction saved tables fun x hx _ _ change => .changes (identified x hx) change).2

/-! ### Answers -/

/-- With unique keys, only a feed whose own keys are taken stands in the way of a feed: there is no
mapping of a feed that is not stored. -/
theorem insertFeed?_ofFeed_eq_some_iff (h : t.Unique) {f : Feed} {category : Option Text} :
    t.insertFeed? (.ofFeed f) category = some u ↔
      (¬ ∃ r ∈ t.feeds, r.id = some f.id ∨ ∃ url, f.url = some url ∧ r.url = some url) ∧
        u = { t with
          feeds := t.feeds ++ [.ofFeed f]
          mappings := t.mappings ++ newMappings (some f.id) category } := by
  have keys (r : FeedRow) : sameText (some f.id) r.id = false ∧ sameText f.url r.url = false ↔
      ¬ (r.id = some f.id ∨ ∃ url, f.url = some url ∧ r.url = some url) := by
    rw [not_or, ← sameText_iff, Bool.not_eq_true, ← Bool.not_eq_true (sameText (some f.id) r.id),
      sameText_iff]
    simp
  rw [insertFeed?_eq_some_iff]
  simp only [NewFeed.ofFeed, Option.some.injEq, exists_eq_left', keys, not_exists, not_and]
  refine and_congr_right fun new => ⟨fun h => h.2, fun same => ⟨fun c _ old => ?_, same⟩⟩
  obtain ⟨r, hr, id⟩ := h.mapped _ old
  exact new r hr (.inl id)

theorem insertTag?_ofTag_eq_some_iff {g : Tag} :
    t.insertTag? (.ofTag g) = some u ↔
      (¬ ∃ r ∈ t.tags, r.id = some g.id ∨ r.label = g.label) ∧
        u = { t with tags := t.tags ++ [.ofTag g] } := by
  have keys (r : TagRow) : sameText (some g.id) r.id = false ∧ r.label ≠ g.label ↔
      ¬ (r.id = some g.id ∨ r.label = g.label) := by
    rw [not_or, ← Bool.not_eq_true, sameText_iff]
    simp
  rw [insertTag?_eq_some_iff]
  simp only [NewTag.ofTag, Option.some.injEq, exists_eq_left', keys, not_exists, not_and]
  rfl

/-- A feed is refused exactly if its identifier or its address is taken, and is stored otherwise, in
its category if it has one. -/
theorem addFeed_ofFeed {s : Store} (h : s.tables.Unique) (f : Feed) (category : Option Text) :
    ((s.addFeed (.ofFeed f) category).1 = .error (.own (.feedExists f.id f.url)) ↔
        ∃ r ∈ s.tables.feeds, r.id = some f.id ∨ ∃ url, f.url = some url ∧ r.url = some url) ∧
      ((¬ ∃ r ∈ s.tables.feeds, r.id = some f.id ∨ ∃ url, f.url = some url ∧ r.url = some url) →
        s.addFeed (.ofFeed f) category = (.ok (), saving { s.tables with
          feeds := s.tables.feeds ++ [.ofFeed f]
          mappings := s.tables.mappings ++ newMappings (some f.id) category })) := by
  unfold addFeed
  cases inserted : s.tables.insertFeed? (.ofFeed f) category with
  | some u =>
    obtain ⟨new, rfl⟩ := (insertFeed?_ofFeed_eq_some_iff h).1 inserted
    exact ⟨⟨nofun, fun taken => absurd taken new⟩, fun _ => rfl⟩
  | none =>
    have taken : ∃ r ∈ s.tables.feeds,
        r.id = some f.id ∨ ∃ url, f.url = some url ∧ r.url = some url := by
      by_contra new
      rw [(insertFeed?_ofFeed_eq_some_iff h).2 ⟨new, rfl⟩] at inserted
      exact absurd inserted nofun
    exact ⟨⟨fun _ => taken, fun _ => rfl⟩, fun new => absurd taken new⟩

/-- A tag is refused exactly if its identifier or its label is taken, and is stored otherwise. -/
theorem addTag_ofTag (s : Store) (g : Tag) :
    ((s.addTag (.ofTag g)).1 = .error (.own (.tagExists g.id g.label)) ↔
        ∃ r ∈ s.tables.tags, r.id = some g.id ∨ r.label = g.label) ∧
      ((¬ ∃ r ∈ s.tables.tags, r.id = some g.id ∨ r.label = g.label) →
        s.addTag (.ofTag g) = (.ok (), saving { s.tables with
          tags := s.tables.tags ++ [.ofTag g] })) := by
  unfold addTag
  cases inserted : s.tables.insertTag? (.ofTag g) with
  | some u =>
    obtain ⟨new, rfl⟩ := insertTag?_ofTag_eq_some_iff.1 inserted
    exact ⟨⟨nofun, fun taken => absurd taken new⟩, fun _ => rfl⟩
  | none =>
    have taken : ∃ r ∈ s.tables.tags, r.id = some g.id ∨ r.label = g.label := by
      by_contra new
      rw [insertTag?_ofTag_eq_some_iff.2 ⟨new, rfl⟩] at inserted
      exact absurd inserted nofun
    exact ⟨⟨fun _ => taken, fun _ => rfl⟩, fun new => absurd taken new⟩

theorem fst_tagArticle (s : Store) (article tag : Text) :
    (s.tagArticle (some article) (some tag)).1 = true ↔
      (⟨article, tag⟩ : Tagging) ∉ s.tables.taggings := by
  unfold tagArticle
  dsimp only
  split <;> simp [*]

/-- A time that is recorded takes the place of the one before it. -/
theorem lastSync_recordSync (s : Store) {time utc : Moment} (h : time.utc? = some utc) :
    (s.recordSync time).2.lastSync = some (.ofUtc utc.wall) := by
  simp only [recordSync, h]
  rfl

/-- Whatever is done to a store without records, nothing is ever stored twice, and a record is
refused exactly if one of its keys is stored. -/
theorem run_empty_unique (ops : List Operation) :
    let s := Store.empty.run ops
    s.tables.Unique ∧
      ((∀ x ∈ ops, x.Identified) → s.tables.Identified ∧ (s.tables.feeds.map (·.id)).Nodup ∧
        (s.tables.articles.map (·.id)).Nodup ∧ (s.tables.tags.map (·.id)).Nodup) ∧
      (∀ time utc, time.utc? = some utc → (s.recordSync time).2.lastSync = some (.ofUtc utc.wall)) ∧
      (∀ (f : Feed) (category : Option Text),
        ((s.addFeed (.ofFeed f) category).1 = .error (.own (.feedExists f.id f.url)) ↔
          ∃ r ∈ s.tables.feeds, r.id = some f.id ∨ ∃ url, f.url = some url ∧ r.url = some url) ∧
        ((¬ ∃ r ∈ s.tables.feeds, r.id = some f.id ∨ ∃ url, f.url = some url ∧ r.url = some url) →
          s.addFeed (.ofFeed f) category = (.ok (), saving { s.tables with
            feeds := s.tables.feeds ++ [.ofFeed f]
            mappings := s.tables.mappings ++ newMappings (some f.id) category }))) ∧
      (∀ g : Tag,
        ((s.addTag (.ofTag g)).1 = .error (.own (.tagExists g.id g.label)) ↔
          ∃ r ∈ s.tables.tags, r.id = some g.id ∨ r.label = g.label) ∧
        ((¬ ∃ r ∈ s.tables.tags, r.id = some g.id ∨ r.label = g.label) →
          s.addTag (.ofTag g) = (.ok (), saving { s.tables with
            tags := s.tables.tags ++ [.ofTag g] }))) ∧
      ∀ article tag : Text, (s.tagArticle (some article) (some tag)).1 = true ↔
        (⟨article, tag⟩ : Tagging) ∉ s.tables.taggings := by
  intro s
  have unique : s.tables.Unique := unique_run .empty .empty ops
  refine ⟨unique, fun identified => ?_, fun _ _ => s.lastSync_recordSync, addFeed_ofFeed unique,
    s.addTag_ofTag, s.fst_tagArticle⟩
  have ids : s.tables.Identified := identified_run .empty .empty identified
  exact ⟨ids, nodup_map_of_filterMap unique.feed_ids ids.feeds,
    nodup_map_of_filterMap unique.article_ids ids.articles,
    nodup_map_of_filterMap unique.tag_ids ids.tags⟩

/-- A feed whose address is taken is refused, and the first feed can be stored in its category again
after it has been removed. -/
theorem run_empty_unique_again :
    let f : Feed := ⟨['f'], ['F'], some ['u'], none⟩
    let ops : List Operation := [.addFeed (.ofFeed f) (some ['c']),
      .addFeed (.ofFeed { f with id := ['g'] }) none, .removeFeed (some f.id),
      .addTag (.ofTag ⟨['t'], ['T'], none⟩), .tagArticle (some ['a']) (some ['t'])]
    let s := Store.empty.run ops
    s.tables.Identified ∧
      (s.addFeed (.ofFeed f) (some ['c'])).2.tables.mappings = [⟨['f'], ['c']⟩] ∧
      (s.addTag (.ofTag ⟨['s'], ['T'], none⟩)).1 = .error (.own (.tagExists ['s'] ['T'])) ∧
      (s.tagArticle (some ['a']) (some ['t'])).1 ≠ true := by
  intro f ops s
  obtain ⟨-, ids, -, feeds, tags, taggings⟩ := run_empty_unique ops
  refine ⟨(ids ?_).1, ?_, (tags ⟨['s'], ['T'], none⟩).1.2 (by decide), ?_⟩
  · simp [ops, Operation.Identified, NewFeed.ofFeed, NewTag.ofTag]
  · rw [(feeds f (some ['c'])).2 (by decide)]
    decide
  · rw [ne_eq, taggings]
    decide

end Store

end FeedReader
