import FeedReader.Store

/-!
# A store in a file

A file has a line for each record, which begins with a letter for its kind. Fields are separated by
tabs; a backslash stands before the letters for a tab, a line break or a missing field, and before
another backslash.

* `Archive.writeField`, `Archive.readField?`;
* `Archive.writeTables`, `Archive.readTables?`;
* `Store.archive`, `Store.ofArchive?`.
-/

namespace FeedReader

namespace Archive

/-! ### Fields -/

/-- A character of a field. -/
def escape (c : Char) : Text :=
  if c = '\t' then ['\\', 't']
  else if c = '\n' then ['\\', 'n']
  else if c = '\\' then ['\\', '\\']
  else [c]

/-- A field, which may be missing. -/
def writeField : Option Text → Text
  | none => ['\\', '0']
  | some t => t.flatMap escape

/-- The text that the characters of a field stand for. -/
def unescape? : Text → Option Text
  | [] => some []
  | '\\' :: 't' :: r => (unescape? r).map ('\t' :: ·)
  | '\\' :: 'n' :: r => (unescape? r).map ('\n' :: ·)
  | '\\' :: '\\' :: r => (unescape? r).map ('\\' :: ·)
  | c :: r => if c = '\\' then none else (unescape? r).map (c :: ·)

/-- Reads a field; nothing if its backslashes mean nothing. -/
def readField? (t : Text) : Option (Option Text) :=
  if t = ['\\', '0'] then some none else (unescape? t).map some

theorem unescape?_escape (c : Char) (t : Text) :
    unescape? (escape c ++ t) = (unescape? t).map (c :: ·) := by
  unfold escape
  split
  · next h => simp [unescape?, h]
  · split
    · next h => simp [unescape?, h]
    · split
      · next h => simp [unescape?, h]
      · next h => simp [unescape?, h]

theorem unescape?_flatMap (t : Text) : unescape? (t.flatMap escape) = some t := by
  induction t with
  | nil => rfl
  | cons c t ih => simp [unescape?_escape, ih]

/-- What is written for a field is read as that field. -/
theorem readField?_writeField (f : Option Text) : readField? (writeField f) = some f := by
  cases f with
  | none => rfl
  | some t =>
    have h : t.flatMap escape ≠ ['\\', '0'] := by
      intro e
      have := unescape?_flatMap t
      rw [e] at this
      simp [unescape?] at this
    simp [readField?, writeField, h, unescape?_flatMap]

/-! ### Records -/

/-- A line of fields. -/
def writeLine (fields : List (Option Text)) : Text :=
  Text.joinWith ['\t'] (fields.map writeField) ++ ['\n']

/-- The letter for a state that an article has or lacks. -/
def writeFlag (b : Bool) : Option Text := some [if b then '1' else '0']

/-- The fields of an article. -/
def articleFields (r : Store.ArticleRow) : List (Option Text) :=
  [some ['A'], r.id, some r.feed, some r.date.stamp, some r.synced.stamp, r.title, r.summary,
   r.author, r.url, writeFlag r.unread, writeFlag r.marked]

/-- The fields of all records. -/
def fields (t : Store.Tables) : List (List (Option Text)) :=
  (t.feeds.map fun r => [some ['F'], r.id, some r.label, r.url, r.website]) ++
    (t.mappings.map fun r => [some ['M'], some r.feed, some r.category]) ++
    t.articles.map articleFields ++
    (t.tags.map fun r => [some ['T'], r.id, some r.label, r.color]) ++
    (t.taggings.map fun r => [some ['G'], some r.article, some r.tag]) ++
    (t.lastSync.map fun time => [some ['S'], some time.stamp]).toList

/-- The lines of all records. -/
def writeTables (t : Store.Tables) : Text := (fields t).flatMap writeLine

/-- Reads a time. -/
def readTime? (t : Text) : Option LocalTime := (Moment.ofStamp? t).map (·.wall)

/-- Reads the letter for a state. -/
def readFlag? (t : Text) : Option Bool :=
  if t = ['1'] then some true else if t = ['0'] then some false else none

/-- The tables with the record of a line before all others. -/
def addRecord? (t : Store.Tables) : List (Option Text) → Option Store.Tables
  | [some ['F'], id, some label, url, website] =>
    some { t with feeds := ⟨id, label, url, website⟩ :: t.feeds }
  | [some ['M'], some feed, some category] =>
    some { t with mappings := ⟨feed, category⟩ :: t.mappings }
  | [some ['A'], id, some feed, some date, some synced, title, summary, author, url, some unread,
      some marked] => do
    let row : Store.ArticleRow :=
      { id, feed, title, summary, author, url,
        date := ← readTime? date, synced := ← readTime? synced,
        unread := ← readFlag? unread, marked := ← readFlag? marked }
    some { t with articles := row :: t.articles }
  | [some ['T'], id, some label, color] => some { t with tags := ⟨id, label, color⟩ :: t.tags }
  | [some ['G'], some article, some tag] =>
    some { t with taggings := ⟨article, tag⟩ :: t.taggings }
  | [some ['S'], some time] => do some { t with lastSync := some (← readTime? time) }
  | _ => none

/-- Reads the lines of a file. -/
def readLines? : List Text → Option Store.Tables
  | [] => some .empty
  | line :: lines => do
    let fields ← (Text.splitAtEach '\t' line).mapM readField?
    addRecord? (← readLines? lines) fields

/-- Reads a file. -/
def readTables? (t : Text) : Option Store.Tables :=
  readLines? ((Text.splitAtEach '\n' t).filter (· ≠ []))

end Archive

/-- The text of the file for a store. -/
def Store.archive (s : Store) : Text := Archive.writeTables s.saved

/-- The store in a file with the given text. -/
def Store.ofArchive? (t : Text) : Option Store := (Archive.readTables? t).map Store.saving

end FeedReader
