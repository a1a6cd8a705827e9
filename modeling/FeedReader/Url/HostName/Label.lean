import FeedReader.Text.Composition
import FeedReader.Text.Marks
import FeedReader.Url.HostName.Direction
import FeedReader.Url.HostName.Error
import FeedReader.Url.HostName.Script
import FeedReader.Url.HostName.Valid

/-!
# Labels of host names

A label is what stands between the dots of a host name, as code points.

* `fitsJoiner`, `fitsContext`: characters that need certain neighbours;
* `checkCharacters`, `checkDirections`: the rules for single characters and for their order;
* `check`: all rules.
-/

namespace FeedReader.Url.HostName

/-- What is checked of a label. -/
abbrev Check := Except Error Unit

/-! ### Characters that need certain neighbours -/

/-- The class of the marks that take the vowel off a letter. -/
def vowelKiller : Nat := 9

/-- Whether the mark before a joiner takes the vowel off its letter; `before` is what stands before
the joiner, the last character first. -/
def afterVowelKiller (before : List Nat) : Bool :=
  before.head?.any fun n => Text.combiningClass n = vowelKiller

/-- Whether the next letter that counts joins on one of the given sides. -/
def joinsNext (sides : List Joining) (codes : List Nat) : Bool :=
  match (codes.map joiningOf?).dropWhile (· = some .transparent) with
  | some side :: _ => sides.contains side
  | _ => false

/-- Whether a sign that joins letters or keeps them apart may stand here. -/
def fitsJoiner (n : Nat) (before after : List Nat) : Bool :=
  afterVowelKiller before ||
    n = 0x200C && joinsNext [.left, .both] before && joinsNext [.right, .both] after

/-- Whether a code point is one of ten digits. -/
def isDigitFrom (first n : Nat) : Bool := first ≤ n && n < first + 10

/-- The zeros of the two sets of Arabic digits, which do not stand in the same label. -/
def arabicZeros : Nat × Nat := (0x660, 0x6F0)

/-- Whether a character that needs certain neighbours may stand here, if it is one. -/
def fitsContext? (n : Nat) (before after : List Nat) : Option Bool :=
  let among (script : Text.Ranges) (m : Nat) : Bool := (script.startOf? m).isSome
  if n = 0xB7 then some (before.head? = some 'l'.toNat && after.head? = some 'l'.toNat)
  else if n = 0x375 then some (after.head?.any (among greek))
  else if n = 0x5F3 || n = 0x5F4 then some (before.head?.any (among hebrew))
  else if n = 0x30FB then some ((before ++ after).any fun m => m != 0x30FB && among japanese m)
  else if isDigitFrom arabicZeros.1 n then
    some (!(before ++ after).any (isDigitFrom arabicZeros.2))
  else if isDigitFrom arabicZeros.2 n then
    some (!(before ++ after).any (isDigitFrom arabicZeros.1))
  else none

/-- Checks the characters of a label from some position on; `before` is what has been checked, the
last character first. -/
def checkCharacters (label before : List Nat) : List Nat → Check
  | [] => .ok ()
  | n :: after =>
    let position := before.length + 1
    if isValid n then checkCharacters label (n :: before) after
    else if n = 0x200C || n = 0x200D then
      if fitsJoiner n before after then checkCharacters label (n :: before) after
      else .error (.joiner n position label)
    else
      match fitsContext? n before after with
      | some true => checkCharacters label (n :: before) after
      | some false => .error (.context n position label)
      | none => .error (.character n position label)

/-! ### Directions -/

namespace Direction

/-- The directions of letters and numbers that are written from right to left. -/
def isRight (d : Direction) : Bool := [right, arabic, arabicNumber].contains d

/-- The directions that a label from right to left may have. -/
def suitsRight (d : Direction) : Bool := d != left && d != unknown

/-- The directions that a label from left to right may have. -/
def suitsLeft (d : Direction) : Bool :=
  [left, number, separator, neutral, joiner, mark].contains d

/-- The directions with which a label from right to left may end, before marks. -/
def endsRight (d : Direction) : Bool := [right, arabic, number, arabicNumber].contains d

/-- The directions with which a label from left to right may end, before marks. -/
def endsLeft (d : Direction) : Bool := [left, number].contains d

/-- The position of the first direction of a kind, counting from one. -/
def position? (kind : Direction → Bool) (ds : List Direction) : Option Nat :=
  (ds.findIdx? kind).map (· + 1)

end Direction

/-- Whether the last direction that is not a mark's is of a kind. -/
def endsWith (kind : Direction → Bool) (ds : List Direction) : Bool :=
  (ds.reverse.find? (· != .mark)).any kind

/-- The position of the first number whose kind differs from the ones before it, counting from
one. -/
def mixed? (ds : List Direction) : Option Nat :=
  let firstKind := ds.find? fun d => d = .number || d = .arabicNumber
  Direction.position? (fun d => (d = .number || d = .arabicNumber) && some d != firstKind) ds

/-- Checks a label from right to left: its first fault counts. -/
def checkRight (ds : List Direction) : Check :=
  match Direction.position? (!Direction.suitsRight ·) ds, mixed? ds with
  | some i, some j => .error (if i ≤ j then .rightToLeft i else .mixedNumbers)
  | some i, none => .error (.rightToLeft i)
  | none, some _ => .error .mixedNumbers
  | none, none => if endsWith Direction.endsRight ds then .ok () else .error .lastDirection

/-- Checks a label from left to right. -/
def checkLeft (ds : List Direction) : Check :=
  match Direction.position? (!Direction.suitsLeft ·) ds with
  | some i => .error (.leftToRight i)
  | none => if endsWith Direction.endsLeft ds then .ok () else .error .lastDirection

/-- Checks the directions of a label. They matter only if something in it is written from right to
left. -/
def checkDirections (label : List Nat) : Check :=
  let ds := label.map directionOf
  match Direction.position? (· = .unknown) ds with
  | some i => .error (.unknownDirection label i)
  | none =>
    if ds.any Direction.isRight then
      match ds.head? with
      | some .right | some .arabic => checkRight ds
      | some .left => checkLeft ds
      | _ => .error (.firstDirection label)
    else .ok ()

/-! ### All rules -/

/-- The hyphen. -/
def hyphen : Nat := '-'.toNat

/-- Checks the place of hyphens. -/
def checkHyphens (label : List Nat) : Check :=
  if (label.drop 2).take 2 = [hyphen, hyphen] then .error .innerHyphens
  else if label.head? = some hyphen || label.getLast? = some hyphen then .error .outerHyphen
  else .ok ()

/-- Checks a label. -/
def check (label : List Nat) : Check := do
  if label.isEmpty then throw .emptyLabel
  if !Text.isComposed label then throw .notComposed
  checkHyphens label
  if label.head?.any fun n => (Text.marks.startOf? n).isSome then throw .initialMark
  checkCharacters label [] label
  checkDirections label

end FeedReader.Url.HostName
