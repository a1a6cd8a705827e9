import FeedReader.Text.Case
import FeedReader.Url.HostName.Label
import FeedReader.Url.Punycode

/-!
# Host names beyond ASCII

A label with characters outside of ASCII is written as `xn--` and letters, digits and hyphens.

* `HostName.labels`: what stands between the dots;
* `HostName.decodeLabel`, `HostName.decode`: the labels that a name in ASCII stands for;
* `HostName.encodeLabel`, `HostName.encode`: a name in ASCII.
-/

namespace FeedReader.Url.HostName

/-- The dots that come between labels. -/
def isDot (c : Char) : Bool :=
  c = '.' || c.toNat = 0x3002 || c.toNat = 0xFF0E || c.toNat = 0xFF61

/-- The labels of a name, and whether a dot follows the last one. -/
def labels (name : Text) : List Text × Bool :=
  let pieces := Text.splitAtEach '.' (name.map fun c => if isDot c then '.' else c)
  if 1 < pieces.length && pieces.getLast? = some [] then (pieces.dropLast, true)
  else (pieces, false)

/-- What encoded labels begin with. -/
def codePrefix : Text := "xn--"

/-- The most characters of a label in ASCII. -/
def longestLabel : Nat := 63

/-- The most characters of a name in ASCII, not counting a dot at its end. -/
def longestName : Nat := 253

/-- Whether all characters are of ASCII. -/
def isAscii (t : Text) : Bool := t.all (·.toNat < 0x80)

/-- The code points of a label in ASCII, which are checked. -/
def decodeLabel (label : Text) : Except Error (List Nat) := do
  let label := Text.lower label
  match Text.dropPrefix? codePrefix label with
  | none =>
    check (label.map Char.toNat)
    return label.map Char.toNat
  | some rest =>
    if rest.isEmpty then throw .noCode
    if rest.getLast? = some '-' then throw .finalHyphen
    match Punycode.decode? rest with
    | none => throw .invalidCode
    | some codes =>
      check codes
      return codes

/-- The labels that a name in ASCII stands for. -/
def decode (name : Text) : Except Error (List (List Nat)) :=
  if name = [] then .error .emptyName else (labels name).1.mapM decodeLabel

/-- A label in ASCII, after its characters have been checked. -/
def encodeLabel (label : Text) : Except Error Text := do
  let written ←
    if isAscii label then
      let _ ← decodeLabel label
      pure label
    else
      check (label.map Char.toNat)
      pure (codePrefix ++ Punycode.encode (label.map Char.toNat))
  if longestLabel < written.length then throw .longLabel
  return written

/-- A name in ASCII. -/
def encode (name : Text) : Except Error Text := do
  if name = [] then throw .emptyName
  let (pieces, endsInDot) := labels name
  let written := Text.joinWith "." (← pieces.mapM encodeLabel)
  if longestName < written.length then throw .longName
  return if endsInDot then written ++ ['.'] else written

end FeedReader.Url.HostName
