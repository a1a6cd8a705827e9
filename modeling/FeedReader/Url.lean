import FeedReader.Text.Case
import FeedReader.Text.Digits
import FeedReader.Url.Escape
import FeedReader.Url.Host
import FeedReader.Url.HostName

/-!
# Web addresses

* `Url.Parts`: an address taken apart; `Url.Parts.ofText?`, `Url.Parts.text`;
* `Url.resolved`: a path without its `.` and `..` segments;
* `Url`, `Url.read`: an address in its normal form. Scheme and host are in lower case, the port of a
  scheme in lower case is left out, and what may not stand in an address is escaped.
-/

namespace FeedReader

namespace Url

/-! ### Cutting an address up -/

/-- The schemes of web addresses. -/
inductive Scheme
  | http
  | https
  deriving DecidableEq

/-- The name of a scheme. -/
def Scheme.name : Scheme → Text
  | .http => "http"
  | .https => "https"

/-- The port that is meant if none is given. -/
def Scheme.port : Scheme → Int
  | .http => 80
  | .https => 443

/-- What stands before the first character of a kind, and the rest with that character. -/
def cutBefore (stop : Char → Bool) (t : Text) : Text × Text :=
  (t.takeWhile (!stop ·), t.dropWhile (!stop ·))

/-- The scheme with a name in any case of letters. -/
def Scheme.ofName? (name : Text) : Option Scheme :=
  if Text.lower name = Scheme.http.name then some .http
  else if Text.lower name = Scheme.https.name then some .https
  else none

/-- The name of the scheme of an address, and what follows its colon and two slashes. -/
def cutScheme? (t : Text) : Option (Text × Text) :=
  let (name, rest) := cutBefore (· = ':') t
  (Text.dropPrefix? "://" rest).map (name, ·)

/-- What stands before the last `@`, and what stands after it. -/
def splitUser : Text → Text × Text
  | [] => ([], [])
  | c :: t =>
    if t.contains '@' then
      let (user, rest) := splitUser t
      (c :: user, rest)
    else if c = '@' then ([], t)
    else ([], c :: t)

/-- What stands before the last `]` and what stands after it. -/
def splitBracket? : Text → Option (Text × Text)
  | [] => none
  | c :: t =>
    match splitBracket? t with
    | some (inside, rest) => some (c :: inside, rest)
    | none => if c = ']' then some ([], t) else none

/-- The host in the form in which it is kept, without brackets. -/
def readHost? (host : Text) : Option Text :=
  if hasFourNumbers host then if isIpv4 host then some host else none
  else if HostName.isAscii host then some (escape inHost (Text.lower host))
  else (HostName.encode (Text.lower host)).toOption

/-- Reads digits with single underscores between them. -/
def readPortDigits? : Nat → Text → Option Nat
  | n, [] => some n
  | n, '_' :: c :: t => (Text.digitValue? c).bind fun v => readPortDigits? (10 * n + v) t
  | n, c :: t => (Text.digitValue? c).bind fun v => readPortDigits? (10 * n + v) t

/-- Reads the number of a port. -/
def readPort? (t : Text) : Option Int :=
  let number (t : Text) : Option Int :=
    match t with
    | [] => none
    | c :: t => (Text.digitValue? c).bind fun v => (readPortDigits? v t).map Int.ofNat
  match t with
  | '-' :: t => (number t).map (-·)
  | '+' :: t => number t
  | t => number t

/-- The port after a host; nothing is written for the one that is meant anyway. -/
def readPortPart? (meant : Option Int) (t : Text) : Option (Option Int) :=
  match (Text.dropPrefix? ":" t).getD t with
  | [] => some none
  | digits => (readPort? digits).map fun n => if some n = meant then none else some n

/-! ### Paths -/

/-- The segments of a path without `.`, and without `..` and what it takes back. `done` holds the
segments so far, the last one first. -/
def resolveSegments (done : List Text) : List Text → List Text
  | [] => done.reverse
  | s :: rest =>
    if s = ".".toList then resolveSegments done rest
    else if s = "..".toList then
      resolveSegments (if done = [[]] then done else done.drop 1) rest
    else resolveSegments (s :: done) rest

/-- A path without its `.` and `..` segments. -/
def resolved (path : Text) : Text :=
  Text.joinWith "/" (resolveSegments [] (Text.splitAtEach '/' path))

/-! ### Addresses -/

/-- An address taken apart; an address of groups stands between brackets. -/
structure Parts where
  scheme : Scheme
  user : Text
  host : Text
  port : Option Int
  path : Text
  search : Option Text
  fragment : Option Text
  deriving DecidableEq

/-- The host and the port of an address, with what stands between brackets as it is. -/
def readHostAndPort? (meant : Option Int) (t : Text) : Option (Text × Option Int) :=
  let (host, rest) := cutBefore (· = ':') t
  match t with
  | '[' :: inner =>
    match splitBracket? inner with
    | some (address, rest) =>
      if isIpv6 address then (readPortPart? meant rest).map (address, ·) else none
    | none => (readHost? host).bind fun h => (readPortPart? meant rest).map (h, ·)
  | _ => (readHost? host).bind fun h => (readPortPart? meant rest).map (h, ·)

/-- The length that no address exceeds. -/
def maximalLength : Nat := 65536

/-- Whether a character is a control character of ASCII. -/
def isControl (c : Char) : Bool := c.toNat < 0x20 || c.toNat = 0x7F

/-- Takes an address apart, with every part in its normal form. -/
def Parts.ofText? (t : Text) : Option Parts := do
  if maximalLength < t.length || t.any isControl then none
  else
    let (name, rest) ← cutScheme? t
    let scheme ← Scheme.ofName? name
    let (authority, rest) := cutBefore (fun c => c = '/' || c = '?' || c = '#') rest
    let (path, rest) := cutBefore (fun c => c = '?' || c = '#') rest
    let (search, fragment) := cutBefore (· = '#') rest
    let (user, place) := splitUser authority
    let meant := if name = scheme.name then some scheme.port else none
    let (host, port) ← readHostAndPort? meant place
    if host.isEmpty then none
    else
      some
        { scheme
          user := escape inUser user
          host
          port
          path := escape inPath (resolved path)
          search := (Text.dropPrefix? "?" search).map (escape inSearch)
          fragment := (Text.dropPrefix? "#" fragment).map (escape inFragment) }

/-- The written form of an address. -/
def Parts.text (p : Parts) : Text :=
  p.scheme.name ++ "://" ++ (if p.user.isEmpty then [] else p.user ++ ['@']) ++
    (if p.host.contains ':' then '[' :: (p.host ++ [']']) else p.host) ++
    (match p.port with
      | some n => ':' :: Text.decimalInt n
      | none => []) ++
    p.path ++
    (match p.search with
      | some s => '?' :: s
      | none => []) ++
    (match p.fragment with
      | some f => '#' :: f
      | none => [])

end Url

/-- A web address in its normal form. -/
structure Url where
  text : Text
  deriving DecidableEq

namespace Url

/-- Why a text stands for no address: it is none, or its host name is encoded but stands for
nothing. -/
inductive Fault
  | notAddress
  | hostName (error : HostName.Error)
  deriving DecidableEq

/-- The labels of a host name that is encoded. -/
def decodeHost (host : Text) : Except HostName.Error (List (List Nat)) :=
  if HostName.codePrefix.isPrefixOf host then HostName.decode host else .ok []

/-- The address that a text stands for. -/
def read (t : Text) : Except Fault Url :=
  match Parts.ofText? t with
  | none => .error .notAddress
  | some p => ((decodeHost p.host).mapError .hostName).map fun _ => ⟨p.text⟩

end Url

end FeedReader
