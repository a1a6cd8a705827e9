import FeedReader.Text.Basic

/-!
# Network addresses

* `Url.isIpv4`: four numbers below 256 between dots, without leading zeros;
* `Url.isIpv6`: eight groups of up to four hexadecimal digits between colons, where the last two may
  be written as four numbers, and one run of zero groups may be left out;
* `Url.hasFourNumbers`: the hosts that have to be four numbers if they are anything.
-/

namespace FeedReader.Url

/-! ### Four numbers -/

/-- Whether a text is a number below 256 without leading zeros. -/
def isOctet (t : Text) : Bool :=
  !t.isEmpty && t.all Char.isDigit && t.length ≤ 3 && (t.head? ≠ some '0' || t.length = 1) &&
    t.foldl (fun n c => 10 * n + (c.toNat - '0'.toNat)) 0 ≤ 255

/-- Whether a text is an address of four numbers. -/
def isIpv4 (t : Text) : Bool :=
  let parts := Text.splitAtEach '.' t
  parts.length = 4 && parts.all isOctet

/-- Whether a text is four numbers of any size between dots. -/
def hasFourNumbers (t : Text) : Bool :=
  let parts := Text.splitAtEach '.' t
  parts.length = 4 && parts.all fun part => !part.isEmpty && part.all Char.isDigit

/-! ### Groups of hexadecimal digits -/

/-- Whether a text is a group of an address. -/
def isGroup (t : Text) : Bool :=
  !t.isEmpty && t.length ≤ 4 &&
    t.all fun c => c.isDigit || ('a' ≤ c && c ≤ 'f') || ('A' ≤ c && c ≤ 'F')

/-- The parts between colons, where four numbers at the end count as two groups; nothing if they are
no address. -/
def ipv6Parts? (t : Text) : Option (List Text) :=
  let parts := Text.splitAtEach ':' t
  match parts.getLast? with
  | none => none
  | some last =>
    if parts.length < 3 then none
    else if last.contains '.' then
      if isIpv4 last then some (parts.dropLast ++ [['0'], ['0']]) else none
    else some parts

/-- Whether the parts before and after a run of groups that is left out are right: an empty part
stands at the outer end only, and only alone. -/
def fitsAround (before after : List Text) : Bool :=
  let before := if before = [[]] then [] else before
  let after := if after = [[]] then [] else after
  before.all isGroup && after.all isGroup && before.length + after.length < 8

/-- Whether the parts between colons make an address. -/
def isGroupList (parts : List Text) : Bool :=
  let inside := (parts.drop 1).dropLast
  match inside.idxOf? [] with
  | some i => parts.length ≤ 9 && fitsAround (parts.take (i + 1)) (parts.drop (i + 2))
  | none => parts.length = 8 && parts.all isGroup

/-- Whether a text is an address of groups, perhaps with a zone after `%`. -/
def isIpv6 (t : Text) : Bool :=
  let zone := t.dropWhile (· != '%')
  (zone.isEmpty || (zone.length ≠ 1 && !(zone.drop 1).contains '%')) &&
    (ipv6Parts? (t.takeWhile (· != '%'))).any isGroupList

end FeedReader.Url
