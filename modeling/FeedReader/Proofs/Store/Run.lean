import FeedReader.Proofs.Result
import FeedReader.Store

/-!
# Runs of a store

A store is changed by one operation after the other, those that fail included.

* `Operation`, `Store.step`, `Store.run`: what is done to a store, and what becomes of it;
* `Operation.Changes`: the changes of the tables that an operation is made of, one for each row it
  stores and one for each other operation that does something;
* `Stepped`, `stepped`: everything that an operation can come to;
* `Store.step_induction`, `Store.run_induction`: what every change keeps holds after an operation
  and after a run, of the tables and of what is permanent.
-/

namespace FeedReader

namespace Store

/-! ### Operations one after the other -/

/-- What is done to a store. -/
inductive Operation
  | addFeed (feed : NewFeed) (category : Option Text)
  | removeFeed (id : Option Text)
  | addArticles (articles : List NewArticle)
  | addTag (tag : NewTag)
  | tagArticle (article tag : Option Text)
  | untagArticle (article tag : Option Text)
  | setRead (ids : List (Option Text)) (state : ReadState)
  | setMark (ids : List (Option Text)) (state : MarkState)
  | recordSync (time : Moment)

/-- Whether an operation succeeds, and the store after it. -/
def step (s : Store) : Operation → Outcome Unit
  | .addFeed f category => s.addFeed f category
  | .removeFeed id => (.ok (), (s.removeFeed id).2)
  | .addArticles articles =>
    ((s.addArticles articles).1.map fun _ => (), (s.addArticles articles).2)
  | .addTag g => s.addTag g
  | .tagArticle article tag => (.ok (), (s.tagArticle article tag).2)
  | .untagArticle article tag => (.ok (), (s.untagArticle article tag).2)
  | .setRead ids state => (.ok (), (s.setRead ids state).2)
  | .setMark ids state => (.ok (), (s.setMark ids state).2)
  | .recordSync time => ((s.recordSync time).1.map fun _ => (), (s.recordSync time).2)

/-- The store after operations that are done one after the other. -/
def run (s : Store) (ops : List Operation) : Store := ops.foldl (fun s x => (s.step x).2) s

/-! ### Changes of the tables -/

/-- The changes that an operation makes to tables. Adding articles makes one for each of them that
is stored, and each other operation makes one at most. -/
inductive Operation.Changes : Operation → Tables → Tables → Prop
  | addFeed {t u : Tables} {f : NewFeed} {category : Option Text}
    (inserted : t.insertFeed? f category = some u) : Changes (.addFeed f category) t u
  | removeFeed (t : Tables) (id : Text) : Changes (.removeFeed (some id)) t (t.removeFeed id)
  | addArticle {t u : Tables} {articles : List NewArticle} {a : NewArticle} {date synced : Moment}
    (mem : a ∈ articles) (hd : a.date.utc? = some date) (hs : a.synced.utc? = some synced)
    (inserted : t.insertArticle? a date.wall synced.wall = some u) :
    Changes (.addArticles articles) t u
  | addTag {t u : Tables} {g : NewTag} (inserted : t.insertTag? g = some u) :
    Changes (.addTag g) t u
  | tagArticle {t : Tables} {article tag : Text}
    (new : (⟨article, tag⟩ : Tagging) ∉ t.taggings) :
    Changes (.tagArticle (some article) (some tag)) t
      { t with taggings := t.taggings ++ [⟨article, tag⟩] }
  | untagArticle (t : Tables) (article tag : Text) :
    Changes (.untagArticle (some article) (some tag)) t
      { t with taggings := t.taggings.filter (· ≠ ⟨article, tag⟩) }
  | setRead (t : Tables) (ids : List (Option Text)) (state : ReadState) :
    Changes (.setRead ids state) t
      (t.updateArticles ids fun r => { r with unread := state = .unread })
  | setMark (t : Tables) (ids : List (Option Text)) (state : MarkState) :
    Changes (.setMark ids state) t
      (t.updateArticles ids fun r => { r with marked := state = .marked })
  | recordSync (t : Tables) {time utc : Moment} (h : time.utc? = some utc) :
    Changes (.recordSync time) t { t with lastSync := some utc.wall }

/-! ### What an operation comes to -/

/-- The tables that an operation can make permanent. -/
inductive Operation.Yields : Operation → Tables → Tables → Prop
  | same (x : Operation) (t : Tables) : Yields x t t
  | change {x : Operation} {t u : Tables} (changes : x.Changes t u) : Yields x t u
  | batch {t u : Tables} {articles : List NewArticle} {n : Nat}
    (stored : t.insertArticles articles = (some n, u)) : Yields (.addArticles articles) t u

/-- Everything that an operation can come to: it leaves the store alone, makes tables permanent,
refuses a record, or fails with an effect. -/
inductive Stepped (s : Store) : Operation → Outcome Unit → Prop
  | idle (x : Operation) : Stepped s x (.ok (), s)
  | kept {x : Operation} {t : Tables} (yields : x.Yields s.tables t) :
    Stepped s x (.ok (), saving t)
  | refused (x : Operation) (e : Failure Error) : Stepped s x (.error e, s)
  | restored (f : NewFeed) (category : Option Text) (e : Failure Error) :
    Stepped s (.addFeed f category) (.error e, s.restore)
  | ended {articles : List NewArticle} {t : Tables}
    (stored : s.tables.insertArticles articles = (none, t)) :
    Stepped s (.addArticles articles) (.error .outOfCalendar, { s with tables := t })

theorem stepped (s : Store) (x : Operation) : Stepped s x (s.step x) := by
  cases x with
  | addFeed f category =>
    simp only [step, addFeed]
    split
    · next inserted => exact .kept (.change (.addFeed inserted))
    · exact .restored f category _
  | removeFeed id =>
    simp only [step, removeFeed]
    split
    · exact .idle _
    · split
      · exact .kept (.change (.removeFeed _ _))
      · exact .idle _
  | addArticles articles =>
    simp only [step, addArticles]
    split
    · next stored => exact .kept (.batch stored)
    · next stored => exact .ended stored
  | addTag g =>
    simp only [step, addTag]
    split
    · next inserted => exact .kept (.change (.addTag inserted))
    · exact .refused _ _
  | tagArticle article tag =>
    simp only [step, tagArticle]
    split
    · split
      · exact .kept (.same _ _)
      · next new => exact .kept (.change (.tagArticle new))
    · exact .kept (.same _ _)
  | untagArticle article tag =>
    simp only [step, untagArticle]
    split
    · exact .kept (.change (.untagArticle _ _ _))
    · exact .kept (.same _ _)
  | setRead ids state =>
    simp only [step, setRead, update]
    split
    · exact .idle _
    · exact .kept (.change (.setRead _ ids state))
  | setMark ids state =>
    simp only [step, setMark, update]
    split
    · exact .idle _
    · exact .kept (.change (.setMark _ ids state))
  | recordSync time =>
    simp only [step, recordSync]
    split
    · next h => exact .kept (.change (.recordSync _ h))
    · exact .refused _ _

/-! ### What is kept -/

variable {P : Tables → Prop} {s : Store} {t : Tables}

/-- What holds of tables and is kept whenever one of the articles is stored holds after all of them,
also if one of them ends it. -/
theorem insertArticles_induction {articles : List NewArticle} (start : P t)
    (change : ∀ t u, (Operation.addArticles articles).Changes t u → P t → P u) :
    P (t.insertArticles articles).2 := by
  suffices h : ∀ rest, rest ⊆ articles → ∀ t, P t → P (t.insertArticles rest).2 from
    h articles (List.Subset.refl _) t start
  intro rest
  induction rest with
  | nil => exact fun _ t ht => ht
  | cons a rest ih =>
    intro sub t ht
    obtain ⟨mem, sub⟩ := List.cons_subset.1 sub
    rw [Tables.insertArticles]
    split
    · next date synced hd hs =>
      split
      · next u inserted => exact ih sub u (change t u (.addArticle mem hd hs inserted) ht)
      · exact ih sub t ht
    · exact ht

/-- What holds of the tables and of what is permanent holds of both after an operation if the
changes that the operation makes keep it. -/
theorem step_induction {x : Operation} (saved : P s.saved) (tables : P s.tables)
    (change : ∀ t u, x.Changes t u → P t → P u) :
    P (s.step x).2.saved ∧ P (s.step x).2.tables := by
  have h := stepped s x
  generalize s.step x = r at h
  cases h with
  | idle | refused => exact ⟨saved, tables⟩
  | restored => exact ⟨saved, saved⟩
  | ended stored =>
    have all := insertArticles_induction tables change
    rw [stored] at all
    exact ⟨saved, all⟩
  | kept yields =>
    suffices all : P _ from ⟨all, all⟩
    cases yields with
    | same => exact tables
    | change changes => exact change _ _ changes tables
    | batch stored =>
      have all := insertArticles_induction tables change
      rwa [stored] at all

/-- What holds of the tables and of what is permanent holds of both after a run if the changes that
its operations make keep it. -/
theorem run_induction {ops : List Operation} (saved : P s.saved) (tables : P s.tables)
    (change : ∀ x ∈ ops, ∀ t u, x.Changes t u → P t → P u) :
    P (s.run ops).saved ∧ P (s.run ops).tables := by
  induction ops generalizing s with
  | nil => exact ⟨saved, tables⟩
  | cons x ops ih =>
    obtain ⟨head, tail⟩ := List.forall_mem_cons.1 change
    obtain ⟨saved, tables⟩ := step_induction saved tables head
    exact ih saved tables tail

end Store

end FeedReader
