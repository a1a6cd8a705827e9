import FeedReader.Text.Basic

/-!
# Percent escapes

* `Url.escape`: every character outside a given set becomes the escapes of its bytes in UTF-8, while
  the escapes that are already there stay.
-/

namespace FeedReader.Url

/-- A hexadecimal digit in either case. -/
def isHexDigit (c : Char) : Bool :=
  c.isDigit || ('a' ≤ c && c ≤ 'f') || ('A' ≤ c && c ≤ 'F')

/-- The hexadecimal digit of a number below sixteen, in upper case. -/
def hexDigit (n : Nat) : Char := (Nat.digitChar n).toUpper

/-- The escape of a byte. -/
def escapeByte (n : Nat) : Text := ['%', hexDigit (n / 16), hexDigit (n % 16)]

/-- The bytes of a character in UTF-8. -/
def bytes (c : Char) : List Nat :=
  let n := c.toNat
  if n < 0x80 then [n]
  else if n < 0x800 then [0xC0 + n / 64, 0x80 + n % 64]
  else if n < 0x10000 then [0xE0 + n / 4096, 0x80 + n / 64 % 64, 0x80 + n % 64]
  else [0xF0 + n / 262144, 0x80 + n / 4096 % 64, 0x80 + n / 64 % 64, 0x80 + n % 64]

/-- The escapes of a character. -/
def escapeChar (c : Char) : Text := (bytes c).flatMap escapeByte

/-- The text with every character escaped that is not `plain`; escapes that are there stay. -/
def escape (plain : Char → Bool) : Text → Text
  | '%' :: a :: b :: t =>
    if isHexDigit a && isHexDigit b then '%' :: a :: b :: escape plain t
    else (if plain '%' then ['%'] else escapeChar '%') ++ escape plain (a :: b :: t)
  | c :: t => (if plain c then [c] else escapeChar c) ++ escape plain t
  | [] => []

/-! ### What may stand in the parts of an address -/

/-- The characters that never need an escape. -/
def isUnreserved (c : Char) : Bool := c.isAlphanum || c = '-' || c = '.' || c = '_' || c = '~'

/-- The characters that divide the parts of an address further. -/
def isDivider (c : Char) : Bool :=
  ['!', '$', '&', '\'', '(', ')', '*', '+', ',', ';', '='].contains c

/-- Other signs that are left as they are: the quotation mark, the backquote, braces, the percent
sign, the bar and the backslash. -/
def isSign (c : Char) : Bool := [0x22, 0x60, 0x7B, 0x7D, 0x25, 0x7C, 0x5C].contains c.toNat

/-- The characters of a host name. -/
def inHost (c : Char) : Bool := isUnreserved c || isDivider c || isSign c

/-- The characters of a user name and password. -/
def inUser (c : Char) : Bool := isUnreserved c || isDivider c || c = ':'

/-- The characters of a path. -/
def inPath (c : Char) : Bool := inHost c || ['^', ':', '/', '[', ']', '@'].contains c

/-- The characters of a search part. -/
def inSearch (c : Char) : Bool := inPath c || c = '?'

/-- The characters of a fragment. -/
def inFragment (c : Char) : Bool := inSearch c || c = '#'

end FeedReader.Url
