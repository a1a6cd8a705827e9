import FeedReader.Text.Quoted

/-!
# Errors of host names

* `HostName.Error`: why a host name is none;
* `HostName.Error.message`.
-/

namespace FeedReader.Url.HostName

/-- Why a host name is none. Positions count from one, and labels are given by code points. -/
inductive Error
  | emptyName
  | emptyLabel
  | longName
  | longLabel
  | noCode
  | finalHyphen
  | invalidCode
  | notComposed
  | innerHyphens
  | outerHyphen
  | initialMark
  | character (code position : Nat) (label : List Nat)
  | joiner (code position : Nat) (label : List Nat)
  | context (code position : Nat) (label : List Nat)
  | unknownDirection (label : List Nat) (position : Nat)
  | firstDirection (label : List Nat)
  | rightToLeft (position : Nat)
  | leftToRight (position : Nat)
  | mixedNumbers
  | lastDirection
  deriving DecidableEq

/-- A code point in a message: at least four hexadecimal digits in upper case. -/
def codeName (n : Nat) : Text :=
  let digits := (Nat.toDigits 16 n).map Char.toUpper
  "U+" ++ (List.replicate (4 - digits.length) '0' ++ digits)

/-- A label between quotes. What is no character is escaped. -/
def quotedCodes (codes : List Nat) : Text :=
  let mark := Text.quoteMark (codes.map Char.ofNat)
  let one (n : Nat) : Text :=
    if n.isValidChar then Text.escapeChar mark (Char.ofNat n) else "\\u" ++ Text.paddedHex 4 n
  mark :: (codes.flatMap one ++ [mark])

namespace Error

/-- The wording of an error. -/
def message : Error → Text
  | emptyName => "Empty domain"
  | emptyLabel => "Empty Label"
  | longName => "Domain too long"
  | longLabel => "Label too long"
  | noCode => "Malformed A-label, no Punycode eligible content found"
  | finalHyphen => "A-label must not end with a hyphen"
  | invalidCode => "Invalid A-label"
  | notComposed => "Label must be in Normalization Form C"
  | innerHyphens => "Label has disallowed hyphens in 3rd and 4th position"
  | outerHyphen => "Label must not start or end with a hyphen"
  | initialMark => "Label begins with an illegal combining character"
  | character n k label =>
    "Codepoint " ++ codeName n ++ " at position " ++ Text.decimal k ++ " of " ++
      quotedCodes label ++ " not allowed"
  | joiner n k label =>
    "Joiner " ++ codeName n ++ " not allowed at position " ++ Text.decimal k ++ " in " ++
      quotedCodes label
  | context n k label =>
    "Codepoint " ++ codeName n ++ " not allowed at position " ++ Text.decimal k ++ " in " ++
      quotedCodes label
  | unknownDirection label k =>
    "Unknown directionality in label " ++ quotedCodes label ++ " at position " ++ Text.decimal k
  | firstDirection label =>
    "First codepoint in label " ++ quotedCodes label ++ " must be directionality L, R or AL"
  | rightToLeft k =>
    "Invalid direction for codepoint at position " ++ Text.decimal k ++ " in a right-to-left label"
  | leftToRight k =>
    "Invalid direction for codepoint at position " ++ Text.decimal k ++ " in a left-to-right label"
  | mixedNumbers => "Can not mix numeral types in a right-to-left label"
  | lastDirection => "Label ends with illegal codepoint directionality"

end Error

end FeedReader.Url.HostName
