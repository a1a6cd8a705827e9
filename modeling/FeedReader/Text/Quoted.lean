import FeedReader.Text.Basic
import FeedReader.Text.Printable

/-!
# Quoted text in messages

Messages show a text between quotes, in such a way that nothing in it can be mistaken for the
message around it.

* `quoteMark`: single quotes, unless the text has some and no double quotes;
* `quoted`.
-/

namespace FeedReader.Text

/-- The last `width` hexadecimal digits of a number, in lower case. -/
def paddedHex : Nat → Nat → Text
  | 0, _ => []
  | width + 1, n => paddedHex width (n / 16) ++ [Nat.digitChar (n % 16)]

/-- The quote in which a text is shown. -/
def quoteMark (t : Text) : Char := if t.contains '\'' && !t.contains '"' then '"' else '\''

/-- A character inside quotes: the quote in use, the backslash and what has no printed form are
escaped. -/
def escapeChar (mark c : Char) : Text :=
  if c = mark || c = '\\' then ['\\', c]
  else if c = '\n' then "\\n"
  else if c = '\r' then "\\r"
  else if c = '\t' then "\\t"
  else if isPrintable c then [c]
  else
    let n := c.toNat
    if n < 0x100 then "\\x" ++ paddedHex 2 n
    else if n < 0x10000 then "\\u" ++ paddedHex 4 n
    else "\\U" ++ paddedHex 8 n

/-- The text between quotes. -/
def quoted (t : Text) : Text :=
  quoteMark t :: (t.flatMap (escapeChar (quoteMark t)) ++ [quoteMark t])

end FeedReader.Text
