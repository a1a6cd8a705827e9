import FeedReader.TimeExpr.Literal
import FeedReader.TimeExpr.Relative
import FeedReader.Text.Quoted

/-!
# Time expressions

A time in a query is relative to now, or a written date and time. What reads as a relative time is
one, even if it then leaves the calendar.

* `TimeExpr.Error` with its `message?`;
* `TimeExpr.read`.
-/

namespace FeedReader.TimeExpr

/-- Why a text is not a time. -/
inductive Error
  | empty
  | yearOutOfRange
  | timeOutOfRange (text : Text)
  | notATime (text : Text)
  deriving DecidableEq

/-- The wording of an error, where it has one of its own. -/
def Error.message? : Error → Option Text
  | empty => some "empty time expression"
  | yearOutOfRange => none
  | timeOutOfRange t => some ("time out of range: " ++ Text.quoted t)
  | notATime t => some ("not a time expression: " ++ Text.quoted t)

/-- The moment that a text stands for, on the calendar of UTC. -/
def read (t : Text) (now : Moment) : Except Error Moment :=
  if (normalized t).isEmpty then .error .empty
  else
    match readRelative? (normalized t) with
    | some a =>
      match now.shift a with
      | .ok m => .ok m
      | .error .yearOutOfRange => .error .yearOutOfRange
      | .error .timeOutOfRange => .error (.timeOutOfRange t)
    | none =>
      match Literal.readLiteral? t now with
      | some m => .ok m
      | none => .error (.notATime t)

end FeedReader.TimeExpr
