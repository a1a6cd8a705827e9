import FeedReader.ArticleList.View
import FeedReader.Proofs.Article.Utc

/-!
# Sessions with an article list

A session runs commands, loads the list again and again, and changes the read state of articles, of
those that a loaded list shows or of any others.

* `Session`, `Session.Step`, `Session.Answer`;
* `Session.step`, `Session.run`: what happens, and what the answers are;
* `Alike`: lists with the same entries, perhaps in the same order;
* `Session.Answer.Alike`: answers that tell the same.
-/

namespace FeedReader

/-! ### Sessions -/

/-- The source of the articles, the state of the article list, and the lists loaded so far. -/
structure Session (σ : Type) where
  source : σ
  list : ArticleList
  views : List ArticleView

namespace Session

/-- What happens in a session. A command is run at a time in UTC, and a scope is about one of the
lists loaded so far, counted from the first. -/
inductive Step
  | command (now : LocalTime) (command : Command)
  | load (lastSync : Moment)
  | setRead (ids : List Text) (state : ReadState)
  | setScopeRead (view : Nat) (scope : ActionScope) (state : ReadState) (current : Option Text)
      (lastSync : Moment)

/-- What a step gives: whether a command changed the list, the articles of a loaded list if it could
be loaded, or the articles that a scope means. -/
inductive Answer
  | ran (result : Query.Result Bool)
  | listed (articles : Option (List Article))
  | done
  | resolved (ids : List Text)

variable {σ : Type} [ArticleSource σ]

/-- A session in which no list has been loaded. -/
def start (source : σ) (list : ArticleList) : Session σ := ⟨source, list, []⟩

/-- A list loaded so far, without articles if there is none. -/
def view (s : Session σ) (n : Nat) : ArticleView := s.views[n]?.getD .empty

/-- Runs a command. -/
def command (s : Session σ) (now : LocalTime) (c : Command) : Answer × Session σ :=
  match s.list.run (.ofUtc now) c with
  | .ok (some list) => (.ran (.ok true), { s with list })
  | .ok none => (.ran (.ok false), s)
  | .error e => (.ran (.error e), s)

/-- Loads the list. -/
def load (s : Session σ) (lastSync : Moment) : Answer × Session σ :=
  match s.list.load? s.source lastSync with
  | some v => (.listed (some v.articles), { s with views := s.views ++ [v] })
  | none => (.listed none, s)

/-- Does a step. -/
def step (s : Session σ) : Step → Answer × Session σ
  | .command now c => s.command now c
  | .load lastSync => s.load lastSync
  | .setRead ids state => (.done, { s with source := (ArticleSource.setRead s.source ids state).2 })
  | .setScopeRead n scope state current lastSync =>
    (.resolved ((s.view n).resolve scope current lastSync),
      { s with source := ((s.view n).setScopeRead s.source scope state current lastSync).2 })

/-- The answers to steps that are done one after the other. -/
def run (s : Session σ) : List Step → List Answer
  | [] => []
  | x :: xs => (s.step x).1 :: (s.step x).2.run xs

end Session

/-! ### Lists that tell the same -/

/-- Whether two lists have the same entries, in the same order if the order counts. -/
def Alike {α : Type} (ordered : Bool) (l m : List α) : Prop := if ordered then l = m else l.Perm m

namespace Alike

variable {α β : Type} {ordered : Bool} {l m : List α}

theorem of_eq (h : l = m) : Alike ordered l m := by
  cases ordered with
  | false => exact .of_eq h
  | true => exact h

theorem perm (h : Alike ordered l m) : l.Perm m := by
  cases ordered with
  | false => exact h
  | true => exact .of_eq h

theorem map (h : Alike ordered l m) (f : α → β) : Alike ordered (l.map f) (m.map f) := by
  cases ordered with
  | false => exact List.Perm.map f h
  | true => exact congrArg (List.map f) h

theorem filter (h : Alike ordered l m) (p : α → Bool) :
    Alike ordered (l.filter p) (m.filter p) := by
  cases ordered with
  | false => exact List.Perm.filter p h
  | true => exact congrArg (List.filter p) h

theorem mergeSort (h : Alike ordered l m) (le : α → α → Bool) :
    Alike ordered (l.mergeSort le) (m.mergeSort le) := by
  cases ordered with
  | false => exact (List.mergeSort_perm l le).trans (h.perm.trans (List.mergeSort_perm m le).symm)
  | true => exact congrArg (List.mergeSort · le) h

end Alike

/-- Whether two answers tell the same: about the same articles with the same contents, in the same
order if the order counts. -/
def Session.Answer.Alike (ordered : Bool) : Answer → Answer → Prop
  | ran r, ran r' => r = r'
  | listed (some l), listed (some m) =>
    FeedReader.Alike ordered (l.map (·.content)) (m.map (·.content))
  | done, done => True
  | resolved ids, resolved ids' => FeedReader.Alike ordered ids ids'
  | _, _ => False

end FeedReader
