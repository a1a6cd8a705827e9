import FeedReader.Failure
import FeedReader.Query
import FeedReader.Query.Error
import FeedReader.TimeExpr

/-!
# Reading queries

A query is read token by token into clauses and at most one sort order. A reader may be given a
filter: states and time bounds then go into it and leave no clause.

* `Progress`, what has been read so far, and `Progress.add`, which adds a condition with its sign;
* `readItem`: a condition or a sort order, which may take up a second token;
* `readFrom`: all that is left to read;
* `read`, `readInto` and `SplitQuery.read`.
-/

namespace FeedReader

namespace Query

/-! ### What has been read -/

/-- What has been read of a query: the filter that takes up states and time bounds, if there is one,
the clauses, and the sort order. -/
structure Progress where
  filter : Option ArticleFilter
  clauses : List Clause
  sort : Option SortOrder
  deriving DecidableEq

/-- A condition, or a sort order. -/
inductive Item
  | condition (atom : Atom)
  | sort (order : SortOrder)
  deriving DecidableEq

namespace Progress

/-- Nothing has been read yet. -/
def start (f : Option ArticleFilter) : Progress := ⟨f, [], none⟩

/-- One more clause. -/
def push (p : Progress) (c : Clause) : Progress := { p with clauses := p.clauses ++ [c] }

/-- One more condition. The filter takes up the state or the bound that is left after negation;
without a filter a state keeps its sign, while a negated bound becomes the opposite one. -/
def add (p : Progress) (negated : Bool) (atom : Atom) : Progress :=
  match p.filter, atom with
  | some f, .read s => { p with filter := some (f.withRead (if negated then s.flip else s)) }
  | some f, .mark s => { p with filter := some (f.withMark (if negated then s.flip else s)) }
  | some f, .bound b time =>
    { p with filter := some (f.narrow (if negated then b.opposite else b) time) }
  | none, .bound b time => p.push ⟨.bound (if negated then b.opposite else b) time, false⟩
  | _, atom => p.push ⟨atom, negated⟩

/-- One more item; a sign before a sort order does not matter. -/
def take (p : Progress) (negated : Bool) : Item → Progress
  | .condition atom => p.add negated atom
  | .sort o => { p with sort := some o }

end Progress

/-! ### Reading items -/

/-- The result of reading. -/
abbrev Result (α : Type) := Except (Failure Error) α

/-- An error at a lexeme, or at the end of a text of the given length. -/
def failAt {α : Type} (length : Nat) (fault : Fault) : Option Lexeme → Result α
  | some x => .error (.own (x.error fault))
  | none => .error (.own ⟨fault, length, []⟩)

/-- The labels of a tag list. -/
def tagLabels (t : Text) : List Text := (Text.splitAtEach ',' t).map (·.drop 1)

/-- The labels in a tag list. -/
def readTags (x : Lexeme) : Result (List Text) :=
  if x.token = .tagList then .ok (tagLabels x.text) else .error (.own (x.error .tagListExpected))

/-- The moment a day before. -/
def dayBefore (now : Moment) : Result Moment :=
  match now.after? (-(Duration.day : Int)) with
  | some m => .ok m
  | none => .error .outOfCalendar

/-- The moment that a quoted time stands for. -/
def readTime (now : Moment) (x : Lexeme) : Result Moment :=
  if x.token = .quoted then
    match TimeExpr.read (Text.inner x.text) now with
    | .ok m => .ok m
    | .error _ => .error (.own (x.error .timeExpected))
  else .error (.own (x.error .timeExpected))

/-- The sort order in a quoted string, if there is none yet. -/
def readSort (sort : Option SortOrder) (x : Lexeme) : Result SortOrder :=
  if x.token = .quoted then
    if sort.isSome then .error (.own (x.error .multipleSortOrders))
    else
      match SortOrder.read (Text.inner x.text) with
      | .ok o => .ok o
      | .error e => .error (.own (x.error (.invalidSortOrder e)))
  else .error (.own (x.error .sortOrderExpected))

/-- The search term that a lexeme stands for. -/
def readTerm (x : Lexeme) : Result SearchTerm := (SearchTerm.ofLexeme x).mapError .own

/-- Reads the token that an item has after its first one, and gives back what follows it. -/
def readSecond (length : Nat) (fault : Fault) (read : Lexeme → Result Item) :
    List Lexeme → Result (Item × List Lexeme)
  | [] => failAt length fault none
  | y :: ys => (read y).map (·, ys)

/-- Reads the item that starts with a lexeme, and gives back what follows it. `sort` is the sort
order read so far, and `length` is the length of the whole text. -/
def readItem (now : Moment) (length : Nat) (sort : Option SortOrder) (x : Lexeme)
    (xs : List Lexeme) : Result (Item × List Lexeme) :=
  match x.token with
  | .keyword .negate => failAt length .keyAfterNegationExpected (some x)
  | .keyword .always => .ok (.condition .always, xs)
  | .keyword (.read s) => .ok (.condition (.read s), xs)
  | .keyword (.mark s) => .ok (.condition (.mark s), xs)
  | .keyword .tagged => .ok (.condition .tagged, xs)
  | .keyword .lastSync => .ok (.condition .lastSync, xs)
  | .keyword .today => (dayBefore now).map fun time => (.condition (.bound .newer time), xs)
  | .keyword (.field f) =>
    readSecond length .searchTermExpected (fun y => (readTerm y).map (.condition ∘ .field f)) xs
  | .keyword .tag =>
    readSecond length .tagListExpected (fun y => (readTags y).map (.condition ∘ .tag)) xs
  | .keyword (.bound b) =>
    readSecond length .timeExpected (fun y => (readTime now y).map (.condition ∘ .bound b)) xs
  | .keyword .sort =>
    readSecond length .sortOrderExpected (fun y => (readSort sort y).map .sort) xs
  | .tagList => .ok (.condition (.tag (tagLabels x.text)), xs)
  | .word => .ok (.condition (.field .all (.word x.text)), xs)
  | .error => failAt length .invalidToken (some x)
  | .quoted => failAt length .keyOrWordExpected (some x)
  | .regex => failAt length .keyOrWordExpected (some x)

theorem length_of_readSecond {length : Nat} {fault : Fault} {read : Lexeme → Result Item}
    {xs rest : List Lexeme} {item : Item} (h : readSecond length fault read xs = .ok (item, rest)) :
    rest.length ≤ xs.length := by
  cases xs with
  | nil => simp [readSecond, failAt] at h
  | cons y ys =>
    cases hy : read y <;> simp_all [readSecond, Except.map]

/-- What follows an item is no longer than what follows its first token. -/
theorem length_of_readItem {now : Moment} {length : Nat} {sort : Option SortOrder} {x : Lexeme}
    {xs rest : List Lexeme} {item : Item} (h : readItem now length sort x xs = .ok (item, rest)) :
    rest.length ≤ xs.length := by
  unfold readItem at h
  split at h
  case h_7 => cases hd : dayBefore now <;> simp_all [Except.map]
  case h_8 | h_9 | h_10 | h_11 => exact length_of_readSecond h
  all_goals simp_all [failAt]

/-! ### Reading queries -/

/-- Reads all items that are left. `negated` tells whether a negation has just been read. -/
def readFrom (now : Moment) (length : Nat) (negated : Bool) (p : Progress) :
    List Lexeme → Result Progress
  | [] => if negated then failAt length .keyAfterNegationExpected none else .ok p
  | x :: xs =>
    if x.token = .keyword .negate then
      if negated then failAt length .keyAfterNegationExpected (some x)
      else readFrom now length true p xs
    else
      match _h : readItem now length p.sort x xs with
      | .error e => .error e
      | .ok (item, rest) => readFrom now length false (p.take negated item) rest
termination_by xs => xs.length
decreasing_by
  · simp
  · have := length_of_readItem _h
    simp only [List.length_cons]
    omega

theorem readFrom_nil (now : Moment) (length : Nat) (negated : Bool) (p : Progress) :
    readFrom now length negated p [] =
      if negated then failAt length .keyAfterNegationExpected none else .ok p := by
  rw [readFrom]

theorem readFrom_cons_of_negate {now : Moment} {length : Nat} {negated : Bool} {p : Progress}
    {x : Lexeme} {xs : List Lexeme} (h : x.token = .keyword .negate) :
    readFrom now length negated p (x :: xs) =
      if negated then failAt length .keyAfterNegationExpected (some x)
      else readFrom now length true p xs := by
  rw [readFrom, if_pos h]

theorem readFrom_cons {now : Moment} {length : Nat} {negated : Bool} {p : Progress}
    {x : Lexeme} {xs : List Lexeme} (h : x.token ≠ .keyword .negate) :
    readFrom now length negated p (x :: xs) =
      (readItem now length p.sort x xs).bind fun (item, rest) =>
        readFrom now length false (p.take negated item) rest := by
  rw [readFrom, if_neg h]
  split <;> simp_all [Except.bind]

/-- Reads a text, with a filter for its states and time bounds if one is given. -/
def readWith (f : Option ArticleFilter) (t : Text) (now : Moment) : Result Progress :=
  readFrom now t.length false (.start f) (tokenize t)

/-- Reads a query. -/
def read (t : Text) (now : Moment) : Result Query :=
  (readWith none t now).map fun p => ⟨t, p.clauses, p.sort⟩

/-- Reads a query, with the states and time bounds added to a filter. -/
def readInto (f : ArticleFilter) (t : Text) (now : Moment) : Result SplitQuery :=
  (readWith (some f) t now).map fun p => ⟨p.filter.getD f, ⟨t, p.clauses, p.sort⟩⟩

end Query

/-- Reads a query and takes it apart. -/
def SplitQuery.read (t : Text) (now : Moment) : Query.Result SplitQuery :=
  Query.readInto ArticleFilter.empty t now

end FeedReader
