import FeedReader.Pattern.Basic

/-!
# Searching for a regular expression

The alternatives are tried in order, and a match goes on with the rest of the pattern as a
continuation, so that a later failure returns to the last choice.

Beside the spot where it is, the matcher keeps a *noted* spot: the one from which a part was last
tried. It matters in one place only: a possessive repetition goes on from the spot that is noted
when its body no longer matches, and that is the last one which the failed round noted. Likewise the
marks of groups are put back after a failure, but what was marked anew stays marked outside of a
repetition that may be tried again.

* `Notes`, `Outcome`, `Continuation`, `Matcher`;
* `firstCode?`, `firstChar?`: how a part begins;
* `tryEach`, `lengthen`, `greedily`, `lazily`, `freely`: repetition;
* `run`: matching from a spot;
* `search`: whether some spot of a text has a match.

A repetition beyond the required number has to move on, so the number of repetitions that can be
tried is bounded by the length of the text.
-/

namespace FeedReader.Pattern

/-! ### What is kept during a match -/

/-- What the matcher keeps: the noted spot, and where groups begin and end. Group `i` begins at mark
`2 * i - 2` and ends at the next one. -/
structure Notes where
  noted : Spot
  marks : List (Option Spot)

namespace Notes

/-- The notes with another noted spot. -/
def note (n : Notes) (x : Spot) : Notes := { n with noted := x }

/-- The notes with a spot marked. -/
def mark (n : Notes) (i : Nat) (x : Spot) : Notes :=
  { n with
    marks := (n.marks ++ List.replicate (i + 1 - n.marks.length) none).set i (some x) }

/-- The notes with earlier marks put back. Outside of repetitions that may be tried again, later
marks are forgotten but earlier ones stay as they are now. -/
def putBack (inside : Bool) (marks : List (Option Spot)) (n : Notes) : Notes :=
  { n with marks := if inside then marks else n.marks.take marks.length }

/-- Where a group begins and ends, if it has matched. -/
def span? (n : Notes) (index : Nat) : Option (Spot × Spot) :=
  match n.marks[2 * index - 2]?, n.marks[2 * index - 1]? with
  | some (some x), some (some y) => if x.position ≤ y.position then some (x, y) else none
  | _, _ => none

end Notes

/-- Whether there is a match, and what is kept at its end or at the failure. -/
inductive Outcome
  | found (notes : Notes)
  | lost (notes : Notes)

namespace Outcome

/-- The match, or what is tried after a failure. -/
def orElse (o : Outcome) (k : Notes → Outcome) : Outcome :=
  match o with
  | found n => found n
  | lost n => k n

/-- What follows a match of a part that is not tried again. -/
def andThen (o : Outcome) (k : Notes → Outcome) : Outcome :=
  match o with
  | found n => k n
  | lost n => lost n

/-- Whether there is a match. -/
def isFound : Outcome → Bool
  | found _ => true
  | lost _ => false

end Outcome

/-- What is left to match from a spot on. -/
abbrev Continuation := Spot → Notes → Outcome

/-- A match of a part of a pattern. -/
abbrev Matcher := Spot → Notes → Continuation → Outcome

/-- Nothing is left to match; the end of the match is noted. -/
def stop : Continuation := fun x n => .found (n.note x)

/-! ### How a part begins -/

/-- The character with which a part has to begin if it begins with a test for a single one; `next`
is the one for what follows the part. -/
def firstCode? : Pattern → Option Nat → Option Nat
  | .empty, next => next
  | .char u, _ => u.code?
  | .seq p q, next => firstCode? p (firstCode? q next)
  | _, _ => none

/-- The test on a character with which a part begins. -/
def firstChar? : Pattern → Option OneChar
  | .char u => some u
  | .seq .empty q => firstChar? q
  | .seq p _ => firstChar? p
  | _ => none

/-- Whether an alternative is worth trying: an exact test at its beginning holds. -/
def admits (p : Pattern) (x : Spot) : Bool :=
  match firstChar? p with
  | some u => !u.isExact || x.after.head?.any u.holds
  | none => true

/-! ### Repetition of a test on a character -/

/-- Tries to go on from each spot in turn; one that is not followed by the required character is
passed over. -/
def tryEach (inside : Bool) (next : Option Nat) (k : Continuation) :
    List Spot → Notes → Outcome
  | [], n => .lost n
  | x :: xs, n =>
    if next.all fun code => x.after.head?.any (·.toNat = code) then
      (k x (n.note x)).orElse fun m => tryEach inside next k xs (m.putBack inside n.marks)
    else tryEach inside next k xs n

/-- The spots after up to `limit` characters that pass a test, the farthest one first, before those
that are given. -/
def reach (u : OneChar) : Nat → Spot → List Spot → List Spot
  | 0, _, passed => passed
  | limit + 1, x, passed =>
    match x.after with
    | [] => passed
    | c :: _ => if u.holds c then reach u limit x.next (x.next :: passed) else passed

/-- The notes after characters have been counted: a test with letter case notes each of them. -/
def counted (u : OneChar) (x : Spot) (passed : List Spot) (n : Notes) : Notes :=
  n.note (if u.isFolded then passed.headD x else x)

/-- The spots to which a repetition of a test can lead, the farthest one first, and the notes after
the characters have been counted. -/
def spread (u : OneChar) (least : Nat) (most : Option Nat) (x : Spot) (n : Notes) :
    List Spot × Notes :=
  if x.after.length < least then ([], n)
  else
    let passed := reach u (most.getD x.after.length) x [x]
    (passed.take (passed.length - least), counted u x passed n)

/-- Goes on from a spot, or after one more character that passes a test, and so on. The first
argument bounds the number of characters. -/
def lengthen (inside : Bool) (u : OneChar) (most : Option Nat) (k : Continuation) :
    Nat → Nat → Continuation
  | 0, _, _, n => .lost n
  | bound + 1, count, x, n =>
    if most.any (· < count) then .lost n
    else
      (k x (n.note x)).orElse fun m =>
        let m := (m.putBack inside n.marks).note x
        match x.after with
        | [] => .lost m
        | c :: _ =>
          if u.holds c then
            lengthen inside u most k bound (count + 1) x.next (counted u x [x.next] m)
          else .lost m

/-- Repeats a test on a character. -/
def repeatChar (inside : Bool) (next : Option Nat) (u : OneChar) (least : Nat) (most : Option Nat) :
    Greed → Matcher
  | .greedy, x, n, k =>
    let (spots, n) := spread u least most x n
    tryEach inside next k spots n
  | .lazy, x, n, k =>
    match spread u least (some least) x n with
    | ([], n) => .lost n
    | (y :: _, n) => lengthen inside u most k (y.after.length + 1) least y n
  | .possessive, x, n, k =>
    match spread u least most x n with
    | ([], n) => .lost n
    | (y :: _, n) => k y n

/-! ### Repetition of other parts -/

/-- Repeats a body as often as it matches, and less often if the rest asks for it. The first
argument bounds the number of repetitions left. -/
def greedily (body : Matcher) (least : Nat) (most : Option Nat) (k : Continuation) :
    Nat → Nat → Option Nat → Continuation
  | 0, _, _, x, n => k x n
  | bound + 1, count, last, x, n =>
    let n := n.note x
    if count < least then
      (body x n (greedily body least most k bound (count + 1) last)).orElse fun m =>
        .lost (m.note x)
    else
      let finish (m : Notes) : Outcome := (k x m).orElse fun m => .lost (m.note x)
      if most.any (· ≤ count) || last = some x.position then finish n
      else
        (body x n (greedily body least most k bound (count + 1) (some x.position))).orElse fun m =>
          finish ((m.putBack true n.marks).note x)

/-- Repeats a body as seldom as the rest allows. -/
def lazily (inside : Bool) (body : Matcher) (least : Nat) (most : Option Nat) (k : Continuation) :
    Nat → Nat → Option Nat → Continuation
  | 0, _, _, x, n => k x n
  | bound + 1, count, last, x, n =>
    let n := n.note x
    if count < least then
      (body x n (lazily inside body least most k bound (count + 1) last)).orElse fun m =>
        .lost (m.note x)
    else
      (k x n).orElse fun m =>
        let m := (m.putBack inside n.marks).note x
        if most.any (· ≤ count) || last = some x.position then .lost m
        else
          (body x m (lazily inside body least most k bound (count + 1) (some x.position))).orElse
            fun m => .lost (m.note x)

/-- Repeats a body a number of times, each time settling for its first match. -/
def required (body : Matcher) : Nat → Notes → Outcome
  | 0, n => .found n
  | count + 1, n => (body n.noted n stop).andThen (required body count)

/-- Repeats a body while it matches and moves on, at most `left` times, each time settling for its
first match. The last failure leaves its noted spot behind. -/
def freely (body : Matcher) : Nat → Option Nat → Notes → Notes
  | 0, _, n => n
  | bound + 1, left, n =>
    if left = some 0 then n
    else
      match body n.noted n stop with
      | .found m =>
        if m.noted.position = n.noted.position then m
        else freely body bound (left.map (· - 1)) m
      | .lost m => m.putBack true n.marks

/-- Repeats a body that is more than a test on a character. -/
def repeatBody (inside : Bool) (body : Matcher) (least : Nat) (most : Option Nat) :
    Greed → Matcher
  | .greedy, x, n, k =>
    greedily body least most k (least + x.position + x.after.length + 2) 0 none x n
  | .lazy, x, n, k =>
    lazily inside body least most k (least + x.position + x.after.length + 2) 0 none x n
  | .possessive, x, n, k =>
    match required body least (n.note x) with
    | .lost m => .lost (m.note x)
    | .found m =>
      let m := freely body (x.position + x.after.length + 2) (most.map (· - least)) m
      k m.noted m

/-! ### Matching -/

/-- Whether two characters are the same one in the given modes. -/
def sameChar (f : Flags) (a b : Char) : Bool :=
  a = b ||
    f.ignoreCase && if f.ascii then a.toLower = b.toLower else lowerCode a.toNat = lowerCode b.toNat

/-- Whether a text starts like another one in the given modes. -/
def startsLike (f : Flags) : Text → Text → Bool
  | [], _ => true
  | _ :: _, [] => false
  | a :: p, b :: t => sameChar f a b && startsLike f p t

/-- Matches a pattern at a spot and goes on with what is left. `inside` tells whether this is within
a repetition that may be tried again, and `next` is the character that has to follow, if it is
known. -/
def run : Pattern → (inside : Bool) → (next : Option Nat) → Matcher
  | .empty, _, _, x, n, k => k x n
  | .never, _, _, _, n, _ => .lost n
  | .char u, _, _, x, n, k => if x.after.head?.any u.holds then k x.next n else .lost n
  | .anchor a f, _, _, x, n, k => if a.holds f x then k x n else .lost n
  | .seq p q, inside, next, x, n, k =>
    run p inside (firstCode? q next) x n fun y m => run q inside next y m k
  | .alt p others, inside, next, x, n, k =>
    if admits p x then
      (run p inside none x (n.note x) k).orElse fun m =>
        run others inside next x (m.putBack inside n.marks) k
    else run others inside next x n k
  | .group i p, inside, _, x, n, k =>
    run p inside none x (n.mark (2 * i - 2) x) fun y m => k y (m.mark (2 * i - 1) y)
  | .atomic p, inside, _, x, n, k =>
    match run p inside none x (n.note x) stop with
    | .found m => k m.noted m
    | .lost m => .lost (m.note x)
  | .look behind false p, inside, _, x, n, k =>
    match x.back? (behind.getD 0) with
    | none => .lost n
    | some y => (run p inside none y (n.note y) stop).andThen (k x)
  | .look behind true p, inside, _, x, n, k =>
    match x.back? (behind.getD 0) with
    | none => k x n
    | some y =>
      match run p inside none y (n.note y) stop with
      | .found m => .lost m
      | .lost m => k x (m.putBack inside n.marks)
  | .backref i f, _, _, x, n, k =>
    match n.span? i with
    | none => .lost n
    | some (a, b) =>
      let t := a.textTo b
      if startsLike f t x.after then k (x.forward t.length) n else .lost n
  | .ifGroup i p .empty, inside, next, x, n, k =>
    if (n.span? i).isSome then run p inside next x n k else k x n
  | .ifGroup i p q, inside, next, x, n, k =>
    if (n.span? i).isSome then run p inside none x n k else run q inside next x n k
  | .repeated least most greed (.char u), inside, next, x, n, k =>
    repeatChar inside next u least most greed x n k
  | .repeated least most .possessive p, inside, _, x, n, k =>
    repeatBody inside (run p inside none) least most .possessive x n k
  | .repeated least most greed p, inside, _, x, n, k =>
    repeatBody inside (run p true none) least most greed x n k

/-! ### Searching -/

/-- Whether a pattern has a match at one of the next spots. -/
def searchFrom (p : Pattern) : Nat → Spot → Bool
  | 0, _ => false
  | spots + 1, x => (run p false none x ⟨x, []⟩ stop).isFound || searchFrom p spots x.next

/-- What a pattern is known to begin with. -/
inductive Beginning
  | nothing
  | character
  | other
  deriving DecidableEq

/-- Whether a pattern begins with a certain character; groups do not hide it. -/
def beginning : Pattern → Beginning
  | .empty => .nothing
  | .char u => if u.code?.isSome then .character else .other
  | .seq p q =>
    match beginning p with
    | .nothing => beginning q
    | o => o
  | .group _ p => beginning p
  | _ => .other

/-- Whether all alternatives of a chain begin with certain characters. -/
def eachCertain : Pattern → Bool
  | .never => true
  | .alt p others => (firstChar? p).any (·.code?.isSome) && eachCertain others
  | _ => false

/-- Whether a pattern begins with a test on a character that settles where matches can begin. -/
def beginsCertain : Pattern → Bool
  | .char u => u.isExact
  | .seq p _ => beginsCertain p
  | .group _ p => beginsCertain p
  | .alt p others => eachCertain (.alt p others)
  | _ => false

/-- The number of spots of a text at which a match is looked for: where nothing is known about the
beginning, those after which too little is left for the least width of a match are left out. -/
def spots (p : Pattern) (least : Nat) (t : Text) : Nat :=
  if t.length < least then 0
  else if beginning p = .character || beginsCertain p then t.length + 1
  else t.length + 1 - (least - 1)

/-- Whether a pattern whose matches have at least the given width matches somewhere in a text. -/
def search (p : Pattern) (least : Nat) (t : Text) : Bool :=
  searchFrom p (spots p least t) (.start t)

end FeedReader.Pattern
