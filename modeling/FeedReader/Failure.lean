import FeedReader.Url.HostName.Error

/-!
# Failures

* `Mishap`: what keeps an operation from a result beside the errors of its own kind;
* `Failure ε`: an error of an operation's own kind, or a mishap.
-/

namespace FeedReader

/-- What can happen in any operation: a time would leave the calendar, an amount of red, green or
blue is left out, an encoded host name stands for nothing, or a command has too many others around
it. -/
inductive Mishap
  | outOfCalendar
  | amountMissing
  | hostName (error : Url.HostName.Error)
  | tooDeep
  deriving DecidableEq

/-- An error of an operation's own kind, or a mishap. -/
inductive Failure (ε : Type)
  | own (error : ε)
  | mishap (mishap : Mishap)
  deriving DecidableEq

/-- A time would leave the calendar. -/
@[match_pattern] def Failure.outOfCalendar {ε : Type} : Failure ε := .mishap .outOfCalendar

/-- The failure with its error put into a larger one. -/
def Failure.map {ε δ : Type} (f : ε → δ) : Failure ε → Failure δ
  | own e => own (f e)
  | mishap m => mishap m

end FeedReader
