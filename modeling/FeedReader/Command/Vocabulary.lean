import FeedReader.Query

/-!
# The words of command lines

* `Panel`, `ActionTarget`, `PastePosition`: arguments written as one of a few words;
* `ActionScope`: which articles a command acts on, which are the current one, all of them, or those
  that meet a query.
-/

namespace FeedReader

/-- The panels of the screen. -/
inductive Panel
  | feeds
  | articles
  | content
  deriving DecidableEq

namespace Panel

/-- The word for a panel. -/
def keyword : Panel → Text
  | feeds => "feeds"
  | articles => "articles"
  | content => "content"

/-- The name of a panel in descriptions. -/
def label : Panel → Text
  | feeds => "feed list"
  | articles => "article list"
  | content => "article content"

/-- What a panel shows. -/
def detail : Panel → Text
  | feeds => "panel with tree of feeds, categories, tags, etc."
  | articles => "panel with the list of articles"
  | content => "content of the selected article"

/-- All panels. -/
def list : List Panel := [feeds, articles, content]

/-- The panel that a word stands for. -/
def ofKeyword? (t : Text) : Option Panel := list.find? (·.keyword = t)

@[simp] theorem ofKeyword?_keyword (p : Panel) : ofKeyword? p.keyword = some p := by
  cases p <;> decide

end Panel

/-- The list that a command acts on. -/
inductive ActionTarget
  | current
  | feeds
  | articles
  deriving DecidableEq

namespace ActionTarget

/-- The word for a target. -/
def keyword : ActionTarget → Text
  | current => "."
  | feeds => "feeds"
  | articles => "articles"

/-- What a target is. -/
def detail : ActionTarget → Text
  | current => "currently selected panel"
  | feeds => "feed list"
  | articles => "article list"

/-- All targets. -/
def list : List ActionTarget := [current, feeds, articles]

/-- The target that a word stands for. -/
def ofKeyword? (t : Text) : Option ActionTarget := list.find? (·.keyword = t)

@[simp] theorem ofKeyword?_keyword (a : ActionTarget) : ofKeyword? a.keyword = some a := by
  cases a <;> decide

end ActionTarget

/-- Where a yanked item is put. -/
inductive PastePosition
  | after
  | before
  deriving DecidableEq

namespace PastePosition

/-- The word for a position. -/
def keyword : PastePosition → Text
  | after => "after"
  | before => "before"

/-- What a position means. -/
def detail : PastePosition → Text
  | after => "position after the current element"
  | before => "position before the current element"

/-- All positions. -/
def list : List PastePosition := [after, before]

/-- The position that a word stands for. -/
def ofKeyword? (t : Text) : Option PastePosition := list.find? (·.keyword = t)

@[simp] theorem ofKeyword?_keyword (p : PastePosition) : ofKeyword? p.keyword = some p := by
  cases p <;> decide

end PastePosition

/-- Which articles a command acts on. -/
inductive ActionScope
  | current
  | all
  | query (query : Query)
  deriving DecidableEq

namespace ActionScope

/-- The sign for the current article. -/
def currentSign : Text := "."

/-- The sign for all articles. -/
def allSign : Text := "%"

/-- What stands for a query in help texts. -/
def querySign : Text := "<query>"

/-- The written form of a scope. -/
def text : ActionScope → Text
  | current => currentSign
  | all => allSign
  | query q => q.text

/-- A scope in words. -/
def describe : ActionScope → Text
  | current => "current article"
  | all => "all articles"
  | query q => "all articles matching " ++ q.text

end ActionScope

end FeedReader
