import FeedReader.Store

/-!
# Where the articles come from

* `ArticleSource`: what an article list needs from whatever holds the articles;
* `Shelf`: articles in memory, at most one for each identifier;
* the store as a source.
-/

namespace FeedReader

/-- What holds articles for an article list. -/
class ArticleSource (σ : Type) where
  /-- The articles that pass a filter; nothing if the filter cannot be evaluated. -/
  articles? : σ → ArticleFilter → Option (List Article)
  /-- What the articles are looked up in. -/
  library : σ → Library
  /-- Sets the read state of articles, and tells which ones it did not know. -/
  setRead : σ → List Text → ReadState → List Text × σ

/-- A warning about an article that is not known. -/
def ArticleSource.unknownArticle (id : Text) : Text :=
  "cannot set read state of unknown article " ++ id

/-! ### Articles in memory -/

/-- Articles in memory, and what they are looked up in. -/
structure Shelf where
  articles : List Article
  library : Library

namespace Shelf

/-- Puts an article among others, in the place of one with its identifier if there is one. -/
def put (articles : List Article) (a : Article) : List Article :=
  if articles.any (·.id = a.id) then articles.map fun b => if b.id = a.id then a else b
  else articles ++ [a]

/-- A shelf with articles; of two with one identifier the later one counts. -/
def ofList (articles : List Article) (library : Library) : Shelf :=
  ⟨articles.foldl put [], library⟩

/-- The articles that pass a filter. -/
def select (s : Shelf) (f : ArticleFilter) : List Article := s.articles.filter f.holds

/-- Whether there is an article with an identifier. -/
def knows (s : Shelf) (id : Text) : Bool := s.articles.any (·.id = id)

/-- Sets the read state of the articles with the given identifiers. -/
def setRead (s : Shelf) (ids : List Text) (state : ReadState) : Shelf :=
  { s with
    articles := s.articles.map fun a => if ids.contains a.id then { a with read := state } else a }

end Shelf

instance : ArticleSource Shelf where
  articles? s f := some (s.select f)
  library s := s.library
  setRead s ids state := (ids.filter (!s.knows ·), s.setRead ids state)

/-! ### The store -/

instance : ArticleSource Store where
  articles? s f := (s.articles? f).map fun rows => rows.filterMap (·.article?)
  library s := s.library
  setRead s ids state := ([], (s.setRead (ids.map some) state).2)

/-- A store with the given records. -/
def Store.fill (feeds : List Feed) (mappings : List Store.Mapping) (articles : List Article)
    (tags : List Tag) (taggings : List Tagging) : Store :=
  let category (f : Feed) : Option Text := (mappings.find? (·.feed = f.id)).map (·.category)
  let s := feeds.foldl (fun s f => (s.addFeed (.ofFeed f) (category f)).2) Store.empty
  let s := (s.addArticles (articles.map .ofArticle)).2
  let s := tags.foldl (fun s t => (s.addTag (.ofTag t)).2) s
  taggings.foldl (fun s t => (s.tagArticle t.article t.tag).2) s

end FeedReader
