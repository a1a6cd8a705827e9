import FeedReader.Color.Names
import FeedReader.Text.Case
import FeedReader.Text.Digits

/-!
# Colors

A color is given by its name, by six hexadecimal digits, by its number, or by the amounts of red,
green and blue. Letter case does not matter.

* `Color.isWritten`: the texts that stand for a color, in lower case;
* `Color`, `Color.read`.
-/

namespace FeedReader

namespace Color

/-- The greatest number of a color, and the greatest amount of red, green or blue. -/
def maximum : Nat := 255

/-- A hexadecimal digit in lower case. -/
def isHexDigit (c : Char) : Bool := c.isDigit || ('a' ≤ c && c ≤ 'f')

/-- Whether a text is `#` and six hexadecimal digits. -/
def isHex : Text → Bool
  | '#' :: t => t.length = 6 && t.all isHexDigit
  | _ => false

/-- The text between `start` and a closing parenthesis at the end. -/
def enclosed? (start t : Text) : Option Text :=
  match Text.dropPrefix? start t with
  | some rest => if rest.getLast? = some ')' then some rest.dropLast else none
  | none => none

/-- Whether a text is the number of a color, in up to three digits. -/
def isNumbered (t : Text) : Bool :=
  match enclosed? "color(" t with
  | some n => 1 ≤ n.length && n.length ≤ 3 && n.all Char.isDigit && Text.readDigits n ≤ maximum
  | none => false

/-- Whether a text is an amount of red, green or blue. -/
def isAmount (t : Text) : Bool := !t.isEmpty && t.all Text.isDigit && Text.readDigits t ≤ maximum

/-- What stands between the commas of a mixed color: three texts that consist of digits. -/
def amounts? (t : Text) : Option (List Text) :=
  ((enclosed? "rgb(" t).map (Text.splitAtEach ',')).filter fun parts =>
    parts.length = 3 && parts.all (·.all Text.isDigit)

/-- Whether a text gives the amounts of red, green and blue. -/
def isMixed (t : Text) : Bool := (amounts? t).any (·.all isAmount)

/-- Whether a text leaves out an amount of red, green or blue. -/
def lacksAmount (t : Text) : Bool := (amounts? t).any (·.contains [])

/-- Whether a text in lower case stands for a color. -/
def isWritten (t : Text) : Bool :=
  t = "default".toList || names.contains t || isHex t || isNumbered t || isMixed t

/-- Why a text stands for no color: it is none, or an amount is left out. -/
inductive Fault
  | notColor
  | amountMissing
  deriving DecidableEq

end Color

/-- A color, as it is written in lower case. -/
structure Color where
  text : Text
  written : Color.isWritten text = true
  deriving DecidableEq

/-- The color that a text stands for. -/
def Color.read (t : Text) : Except Color.Fault Color :=
  if h : isWritten (Text.lower t) = true then .ok ⟨Text.lower t, h⟩
  else .error (if lacksAmount (Text.lower t) then .amountMissing else .notColor)

end FeedReader
