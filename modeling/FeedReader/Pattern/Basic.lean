import FeedReader.Pattern.Letters
import FeedReader.Text.Basic
import FeedReader.Text.Blank
import FeedReader.Text.Digits
import FeedReader.Text.Letters

/-!
# Regular expressions

* `Flags`: the modes that change what parts of a pattern mean;
* `Category`, `ClassItem`, `CharTest`: tests on a single character;
* `OneChar`: such a test in the modes that hold where it stands;
* `Spot`, `Anchor`: places between characters, and tests on them;
* `Pattern`: what a regular expression says.
-/

namespace FeedReader

namespace Pattern

open Text (lowerRuns upperRuns)

/-- The modes of a pattern. -/
structure Flags where
  ignoreCase : Bool := false
  multiline : Bool := false
  dotAll : Bool := false
  verbose : Bool := false
  ascii : Bool := false
  deriving DecidableEq

/-- The modes within a part that turns some on and some off. -/
def Flags.change (f on off : Flags) : Flags where
  ignoreCase := (f.ignoreCase || on.ignoreCase) && !off.ignoreCase
  multiline := (f.multiline || on.multiline) && !off.multiline
  dotAll := (f.dotAll || on.dotAll) && !off.dotAll
  verbose := (f.verbose || on.verbose) && !off.verbose
  ascii := (f.ascii || on.ascii) && !off.ascii

/-! ### Tests on a character -/

/-- The named classes of characters. -/
inductive Category
  | digit
  | blank
  | word
  deriving DecidableEq

/-- Whether a character belongs to a named class; the ASCII mode keeps to ASCII characters. -/
def Category.holds (f : Flags) (c : Char) : Category → Bool
  | digit => if f.ascii then c.isDigit else Text.isDigit c
  | blank => if f.ascii then c = ' ' || ('\t' ≤ c && c ≤ '\r') else Text.isBlank c
  | word => if f.ascii then c.isAlphanum || c = '_' else Text.isWordChar c

/-- A member of a character class. -/
inductive ClassItem
  | code (n : Nat)
  | range (first last : Nat)
  | category (category : Category) (negated : Bool)
  deriving DecidableEq

/-- A test on a single character. -/
inductive CharTest
  | code (n : Nat)
  | any
  | set (negated : Bool) (items : List ClassItem)
  deriving DecidableEq

/-- The code points that count as a character in the given modes. -/
def codesOf (f : Flags) (c : Char) : List Nat :=
  if f.ignoreCase then
    if f.ascii then
      if c.isAlpha then [c.toLower.toNat, c.toUpper.toNat] else [c.toNat]
    else caseMates c.toNat
  else [c.toNat]

/-- Whether a member of a class holds a character. -/
def ClassItem.holds (f : Flags) (c : Char) : ClassItem → Bool
  | code n => (codesOf f c).contains n
  | range first last => (codesOf f c).any fun n => first ≤ n && n ≤ last
  | category k negated => k.holds f c != negated

/-- A test on a character, in the modes that hold where it stands. -/
structure OneChar where
  test : CharTest
  flags : Flags
  deriving DecidableEq

/-- Whether a character passes the test. -/
def OneChar.holds (u : OneChar) (c : Char) : Bool :=
  match u.test with
  | .code n => (codesOf u.flags c).contains n
  | .any => u.flags.dotAll || c != '\n'
  | .set negated items => items.any (·.holds u.flags c) != negated

/-! ### Tests in which letter case plays a part -/

/-- Whether a code point has other forms in the given modes. -/
def isCased (f : Flags) (n : Nat) : Bool :=
  f.ignoreCase && if f.ascii then (Char.ofNat n).isAlpha else (caseMates n).any (· != n)

/-- Whether a range meets letters that have other forms. -/
def hasCased (ascii : Bool) (first last : Nat) : Bool :=
  if ascii then first ≤ 'z'.toNat && 'A'.toNat ≤ last && !('Z'.toNat < first && last < 'a'.toNat)
  else (lowerRuns ++ upperRuns).any fun run => run.first ≤ last && first ≤ run.last

/-- Whether a member of a class has other forms in the given modes. -/
def ClassItem.isCased (f : Flags) : ClassItem → Bool
  | code n => Pattern.isCased f n
  | range first last => f.ignoreCase && hasCased f.ascii first last
  | category _ _ => false

namespace OneChar

/-- The one character that passes, if the test is for a character without other forms. -/
def code? (u : OneChar) : Option Nat :=
  match u.test with
  | .code n => if isCased u.flags n then none else some n
  | _ => none

/-- Whether the test asks for a member of a class; one that asks for any character but one does
not. -/
def isClass (u : OneChar) : Bool :=
  match u.test with
  | .set true [.code _] => false
  | .set .. => true
  | _ => false

/-- Whether the test has to look for other forms of several characters. -/
def isFolded (u : OneChar) : Bool :=
  match u.test with
  | .code n | .set true [.code n] =>
    isCased u.flags n && !u.flags.ascii && likeLowers.any (·.contains (lowerCode n))
  | .set _ items => items.any (·.isCased u.flags)
  | .any => false

/-- Whether the test is for one character or for a class, without regard to letter case. -/
def isExact (u : OneChar) : Bool := u.code?.isSome || u.isClass && !u.isFolded

end OneChar

/-! ### Tests on a place -/

/-- A place in the searched text: what stands before it, last character first, and what stands
after it. -/
structure Spot where
  position : Nat
  before : Text
  after : Text

namespace Spot

/-- The start of a text. -/
def start (t : Text) : Spot := ⟨0, [], t⟩

/-- The spot after the next character. -/
def next (x : Spot) : Spot :=
  match x.after with
  | [] => x
  | c :: t => ⟨x.position + 1, c :: x.before, t⟩

/-- The spot `n` characters further. -/
def forward : Nat → Spot → Spot
  | 0, x => x
  | n + 1, x => forward n x.next

/-- The spot `n` characters back, if the text reaches that far. -/
def back? : Nat → Spot → Option Spot
  | 0, x => some x
  | n + 1, x =>
    match x.before with
    | [] => none
    | c :: t => back? n ⟨x.position - 1, t, c :: x.after⟩

/-- The text from here to a later spot. -/
def textTo (x y : Spot) : Text := x.after.take (y.position - x.position)

end Spot

/-- The tests on a place. -/
inductive Anchor
  | textStart
  | textEnd
  | lineStart
  | lineEnd
  | boundary
  | noBoundary
  deriving DecidableEq

/-- Whether word and other characters meet at a place. -/
def Spot.atBoundary (f : Flags) (x : Spot) : Bool :=
  let word (t : Text) := t.head?.any fun c => Category.word.holds f c
  word x.before != word x.after

/-- Whether a place passes a test. The end of a line includes the place before a final line feed,
and an empty text has neither boundaries nor other places. -/
def Anchor.holds (f : Flags) (x : Spot) : Anchor → Bool
  | textStart => x.before.isEmpty
  | textEnd => x.after.isEmpty
  | lineStart => x.before.isEmpty || f.multiline && x.before.head? = some '\n'
  | lineEnd =>
    x.after.isEmpty || x.after = ['\n'] || f.multiline && x.after.head? = some '\n'
  | boundary => !(x.before.isEmpty && x.after.isEmpty) && x.atBoundary f
  | noBoundary => !(x.before.isEmpty && x.after.isEmpty) && !x.atBoundary f

/-- Which number of repetitions is tried first, and whether others are. -/
inductive Greed
  | greedy
  | lazy
  | possessive
  deriving DecidableEq

end Pattern

/-- A regular expression. Its alternatives form a chain of `alt` that ends in `never`. -/
inductive Pattern
  | empty
  | never
  | char (one : Pattern.OneChar)
  | anchor (anchor : Pattern.Anchor) (flags : Pattern.Flags)
  | seq (first second : Pattern)
  | alt (first others : Pattern)
  | group (index : Nat) (body : Pattern)
  | atomic (body : Pattern)
  /-- A look ahead, or a look behind by a number of characters. -/
  | look (behind : Option Nat) (negated : Bool) (body : Pattern)
  | backref (index : Nat) (flags : Pattern.Flags)
  | ifGroup (index : Nat) (yes no : Pattern)
  | repeated (least : Nat) (most : Option Nat) (greed : Pattern.Greed) (body : Pattern)

end FeedReader
