import FeedReader.Pattern.Search
import FeedReader.Text.Identifier

/-!
# Reading a regular expression

A pattern is read from left to right by a machine that keeps the group being read and the stack of
the groups around it. Each step takes at least one character.

* `Width`: the least and the greatest length of a match, which a look behind needs to be equal;
* `Part`, `choose`: what an alternative consists of, and how alternatives become parts;
* `Piece`, `Opening`, `Frame`, `Reader`: the state of the machine;
* `readEscape?`, `readClass?`, `readCounts?`, `readFlags?`: what is not a single character;
* `Reader.step?`, `Reader.finish?`;
* `Reading` and `read?`; a `Regex` is a source together with its reading.
-/

namespace FeedReader.Pattern

/-! ### Widths -/

/-- The least and the greatest length of a match, both capped at `widthCap`. -/
structure Width where
  least : Nat
  most : Nat
  deriving DecidableEq

/-- Widths of this size and above count as unbounded. -/
def widthCap : Nat := 18446744073709551616

namespace Width

/-- Both ends of a width, capped. -/
def capped (least most : Nat) : Width := ⟨min least widthCap, min most widthCap⟩

/-- The width of one part after another. -/
def add (a b : Width) : Width := capped (a.least + b.least) (a.most + b.most)

/-- The width of a choice. -/
def choice (a b : Width) : Width := ⟨min a.least b.least, max a.most b.most⟩

/-- The width of a repeated part. -/
def times (w : Width) (least : Nat) : Option Nat → Width
  | some most => capped (w.least * least) (w.most * most)
  | none => capped (w.least * least) (if w.most = 0 then 0 else widthCap)

end Width

/-! ### Parts and alternatives -/

/-- A part of an alternative. One with modes of its own is sealed: alternatives do not share it. -/
structure Part where
  pattern : Pattern
  width : Width
  isSealed : Bool := false

namespace Part

/-- Whether a part can be shared by alternatives, and is the same as another one. -/
def sameAs (a b : Part) : Bool :=
  !a.isSealed && !b.isSealed &&
    match a.pattern, b.pattern with
    | .char u, .char v => u = v
    | .anchor p f, .anchor q g => p = q && f = g
    | .backref i f, .backref j g => i = j && f = g
    | _, _ => false

/-- Parts one after the other as one pattern. -/
def joined : List Part → Pattern
  | [] => .empty
  | [p] => p.pattern
  | p :: parts => .seq p.pattern (joined parts)

/-- The width of parts one after the other. -/
def widthOf (parts : List Part) : Width := parts.foldr (fun p w => p.width.add w) ⟨0, 0⟩

/-- The members of a class that a part stands for, with its modes, if it is a test on a character
that tells what it asks for. -/
def members? (p : Part) : Option (Flags × List ClassItem) :=
  match p.isSealed, p.pattern with
  | false, .char ⟨.code n, f⟩ => some (f, [.code n])
  | false, .char ⟨.set false items, f⟩ => some (f, items)
  | _, _ => none

/-- Alternatives that are all single characters or classes, as one class. -/
def merged? (branches : List (List Part)) : Option Part :=
  let members := branches.mapM fun
    | [p] => p.members?
    | _ => none
  match members with
  | some ((f, items) :: rest) =>
    let all := (items ++ rest.flatMap (·.2)).eraseDups
    some { pattern := .char ⟨.set false all, f⟩, width := ⟨1, 1⟩ }
  | _ => none

/-- Alternatives as one part. -/
def choice (branches : List (List Part)) : Part where
  pattern := branches.foldr (fun b others => .alt (joined b) others) .never
  width :=
    match branches.map widthOf with
    | [] => ⟨0, 0⟩
    | w :: ws => ws.foldl Width.choice w

/-- Takes the parts with which all alternatives begin off them. -/
def common : List Part → List (List Part) → List Part × List (List Part)
  | [], others => ([], [] :: others)
  | p :: parts, others =>
    if others.all fun b => b.head?.any (sameAs p) then
      let (shared, rest) := common parts (others.map (·.drop 1))
      (p :: shared, rest)
    else ([], (p :: parts) :: others)

/-- Alternatives as parts: what all begin with, then what is left of each. -/
def choose : List (List Part) → List Part
  | [] => []
  | [b] => b
  | b :: others =>
    let (shared, rest) := common b others
    shared ++ [(merged? rest).getD (choice rest)]

end Part

/-! ### The state of the machine -/

/-- What has been read as one element: a part, or the bare contents of a group without a name or
modes, which may be repeated as a whole. -/
structure Piece where
  parts : List Part
  isBare : Bool := false

/-- How a group was opened. A plain group is bare if it has no modes of its own. -/
inductive Opening
  | capture (index : Nat)
  | plain (isBare : Bool)
  | atomic
  | look (behind negated : Bool)
  | conditional (index : Nat)

/-- A group being read: its finished alternatives and the pieces of the current one, the last one
first, and the modes within it. `outerGuard` is what the reader's guard was before the group. -/
structure Frame where
  opening : Opening
  branches : List (List Part)
  pieces : List Piece
  modes : Flags
  outerGuard : Option Nat

/-- Flag letters read so far: the modes, and the letters that are not modes. -/
structure FlagSet where
  modes : Flags := {}
  unicode : Bool := false
  template : Bool := false

/-- The state of the machine. `count` is the number of the next group, `guard` its value at the
outermost look behind around this place, and `conditions` are the groups that conditions name. -/
structure Reader where
  top : Frame
  around : List Frame
  count : Nat
  names : List (Text × Nat)
  closed : List (Nat × Width)
  guard : Option Nat
  conditions : List Nat
  flags : FlagSet
  repeats : Bool

/-- The most groups that may be nested. -/
def nestingLimit : Nat := 480

/-- Repetition counts have to stay below this number. -/
def countLimit : Nat := 4294967295

/-- The state before a pattern. -/
def Reader.start : Reader where
  top := ⟨.plain true, [], [], {}, none⟩
  around := []
  count := 1
  names := []
  closed := []
  guard := none
  conditions := []
  flags := {}
  repeats := false

namespace Frame

/-- The parts of the current alternative. -/
def parts (f : Frame) : List Part := f.pieces.reverse.flatMap (·.parts)

/-- The current alternative, finished. -/
def endBranch (f : Frame) : Frame := { f with branches := f.parts :: f.branches, pieces := [] }

/-- The contents of a group that may have any number of alternatives. -/
def contents (f : Frame) : List Part := Part.choose f.endBranch.branches.reverse

/-- Adds a piece. -/
def push (f : Frame) (p : Piece) : Frame := { f with pieces := p :: f.pieces }

end Frame

namespace Reader

/-- The modes at the current place. -/
def modes (r : Reader) : Flags := r.top.modes

/-- Adds a part to the current alternative. -/
def push (r : Reader) (p : Pattern) (w : Width) : Reader :=
  { r with top := r.top.push ⟨[{ pattern := p, width := w }], false⟩ }

/-- Adds a test on one character. -/
def pushChar (r : Reader) (t : CharTest) : Reader := r.push (.char ⟨t, r.modes⟩) ⟨1, 1⟩

/-- Adds a character that stands for itself. -/
def pushCode (r : Reader) (n : Nat) : Reader := r.pushChar (.code n)

/-- Adds a test on the current place. -/
def pushAnchor (r : Reader) (a : Anchor) : Reader := r.push (.anchor a r.modes) ⟨0, 0⟩

/-- Opens a group. -/
def enter (r : Reader) (o : Opening) (modes : Flags) : Option Reader :=
  if r.around.length < nestingLimit then
    some { r with top := ⟨o, [], [], modes, r.guard⟩, around := r.top :: r.around }
  else none

/-- Whether a group may be referred to here: it has to be closed, and closed before the look behind
around this place. -/
def mayRefer (r : Reader) (index : Nat) : Bool :=
  (r.closed.lookup index).isSome && r.guard.all (index < ·)

/-- Adds a reference to a group. -/
def refer? (r : Reader) (index : Nat) : Option Reader :=
  match r.closed.lookup index with
  | some w => if r.mayRefer index then some (r.push (.backref index r.modes) w) else none
  | none => none

end Reader

/-! ### Escapes -/

/-- The value of a hexadecimal digit. -/
def hexValue? (c : Char) : Option Nat :=
  if '0' ≤ c && c ≤ '9' then some (c.toNat - '0'.toNat)
  else if 'a' ≤ c && c ≤ 'f' then some (c.toNat - 'a'.toNat + 10)
  else if 'A' ≤ c && c ≤ 'F' then some (c.toNat - 'A'.toNat + 10)
  else none

/-- Reads exactly `n` hexadecimal digits. -/
def readHex? : Nat → Nat → Text → Option (Nat × Text)
  | 0, v, t => some (v, t)
  | _ + 1, _, [] => none
  | n + 1, v, c :: t => (hexValue? c).bind fun d => readHex? n (16 * v + d) t

/-- Whether a character is an octal digit. -/
def isOctal (c : Char) : Bool := '0' ≤ c && c ≤ '7'

/-- Reads up to `n` more octal digits. -/
def readOctal : Nat → Nat → Text → Nat × Text
  | 0, v, t => (v, t)
  | _ + 1, v, [] => (v, [])
  | n + 1, v, c :: t =>
    if isOctal c then readOctal n (8 * v + (c.toNat - '0'.toNat)) t else (v, c :: t)

/-- The code that a letter stands for after a backslash. -/
def controlCode? : Char → Option Nat
  | 'a' => some 7
  | 'f' => some 12
  | 'n' => some 10
  | 'r' => some 13
  | 't' => some 9
  | 'v' => some 11
  | '\\' => some 92
  | _ => none

/-- The class that a letter stands for after a backslash. -/
def categoryItem? : Char → Option ClassItem
  | 'd' => some (.category .digit false)
  | 'D' => some (.category .digit true)
  | 's' => some (.category .blank false)
  | 'S' => some (.category .blank true)
  | 'w' => some (.category .word false)
  | 'W' => some (.category .word true)
  | _ => none

/-- Reads the hexadecimal code after `\x`, `\u` or `\U`. -/
def readCode? (c : Char) (t : Text) : Option (Option (Nat × Text)) :=
  match c with
  | 'x' => some (readHex? 2 0 t)
  | 'u' => some (readHex? 4 0 t)
  | 'U' => some ((readHex? 8 0 t).filter (·.1 ≤ 0x10FFFF))
  | _ => none

/-- Reads what follows a backslash inside a class. -/
def readClassEscape? (c : Char) (t : Text) : Option (ClassItem × Text) :=
  match (if c = 'b' then some 8 else controlCode? c), categoryItem? c, readCode? c t with
  | some n, _, _ => some (.code n, t)
  | none, some item, _ => some (item, t)
  | none, none, some found => found.map fun (n, rest) => (.code n, rest)
  | none, none, none =>
    if isOctal c then
      let (n, rest) := readOctal 2 (c.toNat - '0'.toNat) t
      if n ≤ 0o377 then some (.code n, rest) else none
    else if c.isAlphanum then none
    else some (.code c.toNat, t)

/-- The place that a letter stands for after a backslash. -/
def anchor? : Char → Option Anchor
  | 'A' => some .textStart
  | 'b' => some .boundary
  | 'B' => some .noBoundary
  | 'Z' => some .textEnd
  | _ => none

/-- Reads what follows a backslash and a digit other than zero: three octal digits are a character,
anything else refers to a group. -/
def Reader.readNumber? (r : Reader) (c : Char) (t : Text) : Option (Reader × Text) :=
  let v := c.toNat - '0'.toNat
  match t with
  | d :: e :: rest =>
    if isOctal c && isOctal d && isOctal e then
      let n := 64 * v + 8 * (d.toNat - '0'.toNat) + (e.toNat - '0'.toNat)
      if n ≤ 0o377 then some (r.pushCode n, rest) else none
    else if d.isDigit then (r.refer? (10 * v + (d.toNat - '0'.toNat))).map (·, e :: rest)
    else (r.refer? v).map (·, t)
  | [d] =>
    if d.isDigit then (r.refer? (10 * v + (d.toNat - '0'.toNat))).map (·, [])
    else (r.refer? v).map (·, t)
  | [] => (r.refer? v).map (·, t)

/-- Reads what follows a backslash outside a class. -/
def Reader.readEscape? (r : Reader) (c : Char) (t : Text) : Option (Reader × Text) :=
  match anchor? c, categoryItem? c, controlCode? c, readCode? c t with
  | some a, _, _, _ => some (r.pushAnchor a, t)
  | none, some item, _, _ => some (r.pushChar (.set false [item]), t)
  | none, none, some n, _ => some (r.pushCode n, t)
  | none, none, none, some found => found.map fun (n, rest) => (r.pushCode n, rest)
  | none, none, none, none =>
    if c = '0' then
      let (n, rest) := readOctal 2 0 t
      some (r.pushCode n, rest)
    else if c.isDigit then r.readNumber? c t
    else if c.isAlpha then none
    else some (r.pushCode c.toNat, t)

/-! ### Classes -/

/-- Reads one character or escape inside a class. -/
def readClassAtom? : Text → Option (ClassItem × Text)
  | [] => none
  | ['\\'] => none
  | '\\' :: c :: t => readClassEscape? c t
  | c :: t => some (.code c.toNat, t)

/-- Reads one member of a class: an atom or a range. A minus before the closing bracket stands for
itself. -/
def readClassItem? (t : Text) : Option (ClassItem × Text) :=
  match readClassAtom? t with
  | none => none
  | some (item, '-' :: ']' :: rest) => some (item, '-' :: ']' :: rest)
  | some (item, '-' :: rest) =>
    match item, readClassAtom? rest with
    | .code first, some (.code last, rest) =>
      if first ≤ last then some (.range first last, rest) else none
    | _, _ => none
  | some (item, rest) => some (item, rest)

/-- Reads the members of a class through its closing bracket, which may also stand first as a
member. -/
def readClassItems? (items : List ClassItem) (t : Text) : Option (List ClassItem × Text) :=
  if !items.isEmpty && t.head? = some ']' then some (items.reverse, t.drop 1)
  else if t.take 2 = ['-', ']'] then some ((.code '-'.toNat :: items).reverse, t.drop 2)
  else
    match readClassItem? t with
    | none => none
    | some (item, rest) =>
      if rest.length < t.length then readClassItems? (item :: items) rest else none
termination_by t.length

/-- The test for a class; a class of one character is the character. -/
def classTest (negated : Bool) (items : List ClassItem) : CharTest :=
  match negated, items.eraseDups with
  | false, [.code n] => .code n
  | _, items => .set negated items

/-- Reads a class from after its opening bracket. -/
def readClass? (t : Text) : Option (CharTest × Text) :=
  match t with
  | '^' :: rest => (readClassItems? [] rest).map fun (items, rest) => (classTest true items, rest)
  | _ => (readClassItems? [] t).map fun (items, rest) => (classTest false items, rest)

/-! ### Repetition counts -/

/-- What a brace opens: a repetition, nothing special, or a repetition that is refused. -/
inductive Counts
  | found (least : Nat) (most : Option Nat) (rest : Text)
  | literal
  | refused

/-- The number that decimal digits write, nothing if there are none. -/
def number? (digits : Text) : Option Nat :=
  if digits.isEmpty then none else some (Text.readDigits digits)

/-- Reads the counts after an opening brace. -/
def readCounts (t : Text) : Counts :=
  let low := t.takeWhile Char.isDigit
  let afterLow := t.dropWhile Char.isDigit
  let check (low high : Text) (rest : Text) : Counts :=
    let least := (number? low).getD 0
    let most := number? high
    if countLimit ≤ least || most.any (fun m => countLimit ≤ m || m < least) then .refused
    else .found least most rest
  match afterLow with
  | '}' :: rest => if low.isEmpty then .literal else check low low rest
  | ',' :: more =>
    match more.dropWhile Char.isDigit with
    | '}' :: rest => check low (more.takeWhile Char.isDigit) rest
    | _ => .literal
  | _ => .literal

/-- Whether a piece can be repeated: a place or a repetition by itself cannot. -/
def Piece.isRepeatable (p : Piece) : Bool :=
  p.isBare ||
    match p.parts with
    | [⟨.anchor .., _, false⟩] => false
    | [⟨.repeated .., _, false⟩] => false
    | _ => true

/-- Repeats the last piece. -/
def Reader.repeatLast? (r : Reader) (least : Nat) (most : Option Nat) (t : Text) :
    Option (Reader × Text) :=
  match r.top.pieces with
  | [] => none
  | p :: earlier =>
    let (greed, rest) : Greed × Text := match t with
      | '?' :: rest => (.lazy, rest)
      | '+' :: rest => (.possessive, rest)
      | _ => (.greedy, t)
    if p.isRepeatable then
      let part : Part :=
        { pattern := .repeated least most greed (Part.joined p.parts)
          width := (Part.widthOf p.parts).times least most }
      some ({ r with top := { r.top with pieces := ⟨[part], false⟩ :: earlier }, repeats := true },
        rest)
    else none

/-! ### Flags -/

/-- Adds a flag letter; the ASCII and the Unicode letter exclude each other. -/
def FlagSet.add? (s : FlagSet) : Char → Option FlagSet
  | 'i' => some { s with modes := { s.modes with ignoreCase := true } }
  | 'm' => some { s with modes := { s.modes with multiline := true } }
  | 's' => some { s with modes := { s.modes with dotAll := true } }
  | 'x' => some { s with modes := { s.modes with verbose := true } }
  | 'a' => if s.unicode then none else some { s with modes := { s.modes with ascii := true } }
  | 'u' => if s.modes.ascii then none else some { s with unicode := true }
  | 't' => some { s with template := true }
  | _ => none

/-- Reads flag letters up to one of the closing characters. -/
def readFlags? (closing : List Char) (s : FlagSet) : Text → Option (FlagSet × Char × Text)
  | [] => none
  | c :: t =>
    if closing.contains c then some (s, c, t) else (s.add? c).bind (readFlags? closing · t)

/-- Whether two sets of modes share one. -/
def Flags.meets (f g : Flags) : Bool :=
  f.ignoreCase && g.ignoreCase || f.multiline && g.multiline || f.dotAll && g.dotAll ||
    f.verbose && g.verbose

/-- The modes of the whole pattern after a leading group of flags. -/
def Reader.setFlags? (r : Reader) (s : FlagSet) : Option Reader :=
  let flags : FlagSet :=
    ⟨r.flags.modes.change s.modes {}, r.flags.unicode || s.unicode, r.flags.template || s.template⟩
  if r.around.isEmpty && r.top.branches.isEmpty && r.top.pieces.isEmpty &&
      !(flags.unicode && flags.modes.ascii) then
    some { r with flags := flags, top := { r.top with modes := flags.modes } }
  else none

/-- Opens a group with flags turned on and off. -/
def Reader.enterFlags? (r : Reader) (on off : FlagSet) : Option Reader :=
  if on.template || off.template || off.unicode || off.modes.ascii || on.modes.meets off.modes then
    none
  else
    -- the Unicode letter ends an ASCII part
    let off := { off.modes with ascii := on.unicode }
    r.enter (.plain false) (r.modes.change on.modes off)

/-- Reads flags from their first character on. -/
def Reader.readFlagGroup? (r : Reader) (t : Text) : Option (Reader × Text) :=
  let turnOff (on : FlagSet) (t : Text) : Option (Reader × Text) :=
    match t with
    | ':' :: _ => none
    | _ =>
      (readFlags? [':'] {} t).bind fun (off, _, rest) => (r.enterFlags? on off).map (·, rest)
  match t with
  | '-' :: rest => turnOff {} rest
  | ')' :: _ => none
  | _ =>
    match readFlags? [')', ':', '-'] {} t with
    | some (on, ')', rest) => (r.setFlags? on).map (·, rest)
    | some (on, ':', rest) => (r.enterFlags? on {}).map (·, rest)
    | some (on, _, rest) => if on.template then none else turnOff on rest
    | none => none

/-! ### Groups -/

/-- Reads a name up to a closing character. -/
def readName? (closing : Char) (t : Text) : Option (Text × Text) :=
  match t.dropWhile (· != closing) with
  | [] => none
  | _ :: rest =>
    let name := t.takeWhile (· != closing)
    if name.isEmpty then none else some (name, rest)

/-- Opens a group that is recorded. -/
def Reader.enterCapture? (r : Reader) : Option Reader :=
  ({ r with count := r.count + 1 } : Reader).enter (.capture r.count) r.modes

/-- Opens a group that is recorded under a name of its own. -/
def Reader.enterNamed? (r : Reader) (name : Text) : Option Reader :=
  if Text.isIdentifier name && (r.names.lookup name).isNone then
    ({ r with names := (name, r.count) :: r.names } : Reader).enterCapture?
  else none

/-- Opens a look around; the outermost look behind sets the guard. -/
def Reader.enterLook? (r : Reader) (behind negated : Bool) : Option Reader :=
  (r.enter (.look behind negated) r.modes).map fun s =>
    if behind && s.guard.isNone then { s with guard := some s.count } else s

/-- Reads digits with single underscores between them. -/
def readIndexDigits? : Nat → Text → Option Nat
  | n, [] => some n
  | n, '_' :: c :: t => (Text.digitValue? c).bind fun v => readIndexDigits? (10 * n + v) t
  | n, c :: t => (Text.digitValue? c).bind fun v => readIndexDigits? (10 * n + v) t

/-- Reads the number of a group, which may stand between blanks and after a plus. -/
def readIndex? (t : Text) : Option Nat :=
  let t := Text.trim t
  match (if t.head? = some '+' then t.drop 1 else t) with
  | [] => none
  | c :: t => (Text.digitValue? c).bind fun v => (readIndexDigits? v t).filter (0 < ·)

/-- Opens a choice by whether a group has matched, given by name or number. -/
def Reader.enterConditional? (r : Reader) (name : Text) : Option Reader :=
  let opened (index : Nat) (s : Reader) : Option Reader :=
    if s.guard.isSome && !s.mayRefer index then none
    else s.enter (.conditional index) s.modes
  if Text.isIdentifier name then (r.names.lookup name).bind (opened · r)
  else
    (readIndex? name).bind fun index =>
      opened index { r with conditions := index :: r.conditions }

/-- Skips a comment through its closing parenthesis. -/
def skipComment? : Text → Option Text
  | [] => none
  | '\\' :: _ :: t => skipComment? t
  | c :: t => if c = ')' then some t else skipComment? t

/-- Reads what follows an opening parenthesis. -/
def Reader.open? (r : Reader) (t : Text) : Option (Reader × Text) :=
  match t with
  | '?' :: 'P' :: '<' :: rest =>
    (readName? '>' rest).bind fun (name, rest) => (r.enterNamed? name).map (·, rest)
  | '?' :: 'P' :: '=' :: rest =>
    (readName? ')' rest).bind fun (name, rest) =>
      ((r.names.lookup name).bind r.refer?).map (·, rest)
  | '?' :: ':' :: rest => (r.enter (.plain true) r.modes).map (·, rest)
  | '?' :: '#' :: rest => (skipComment? rest).map (r, ·)
  | '?' :: '=' :: rest => (r.enterLook? false false).map (·, rest)
  | '?' :: '!' :: rest => (r.enterLook? false true).map (·, rest)
  | '?' :: '<' :: '=' :: rest => (r.enterLook? true false).map (·, rest)
  | '?' :: '<' :: '!' :: rest => (r.enterLook? true true).map (·, rest)
  | '?' :: '(' :: rest =>
    (readName? ')' rest).bind fun (name, rest) => (r.enterConditional? name).map (·, rest)
  | '?' :: '>' :: rest => (r.enter .atomic r.modes).map (·, rest)
  | '?' :: rest => r.readFlagGroup? rest
  | _ => r.enterCapture?.map (·, t)

/-- A piece of one part. -/
def Piece.single (p : Pattern) (w : Width) : Piece := ⟨[{ pattern := p, width := w }], false⟩

/-- The piece that a finished group becomes. -/
def Frame.close? (f : Frame) : Option Piece :=
  let parts := f.contents
  let body := Part.joined parts
  let width := Part.widthOf parts
  match f.opening with
  | .capture index => some (.single (.group index body) width)
  | .plain true => some ⟨parts, true⟩
  | .plain false => some ⟨[{ pattern := body, width, isSealed := true }], false⟩
  | .atomic => some (.single (.atomic body) width)
  | .look false negated => some (.single (.look none negated body) ⟨0, 0⟩)
  | .look true negated =>
    if width.least = width.most && width.least ≤ countLimit then
      some (.single (.look (some width.least) negated body) ⟨0, 0⟩)
    else none
  | .conditional index =>
    match f.endBranch.branches with
    | [yes] => some (.single (.ifGroup index (Part.joined yes) .empty) ⟨0, (Part.widthOf yes).most⟩)
    | [no, yes] =>
      some (.single (.ifGroup index (Part.joined yes) (Part.joined no))
        ((Part.widthOf yes).choice (Part.widthOf no)))
    | _ => none

/-- Ends the current group. -/
def Reader.close? (r : Reader) : Option Reader :=
  match r.around with
  | [] => none
  | outer :: around =>
    r.top.close?.map fun p =>
      { r with
        top := outer.push p
        around := around
        guard := r.top.outerGuard
        closed := match r.top.opening with
          | .capture index => (index, Part.widthOf p.parts) :: r.closed
          | _ => r.closed }

/-! ### The machine -/

/-- Skips a comment of the verbose mode through the end of its line. -/
def skipLine : Text → Text
  | [] => []
  | '\\' :: _ :: t => skipLine t
  | c :: t => if c = '\n' then t else skipLine t

/-- Reads one element, given its first character. -/
def Reader.step? (r : Reader) (c : Char) (t : Text) : Option (Reader × Text) :=
  if r.modes.verbose && (c = ' ' || ('\t' ≤ c && c ≤ '\r')) then some (r, t)
  else if r.modes.verbose && c = '#' then some (r, skipLine t)
  else
    match c with
    | '\\' =>
      match t with
      | [] => none
      | d :: rest => r.readEscape? d rest
    | '[' => (readClass? t).map fun (test, rest) => (r.pushChar test, rest)
    | '?' => r.repeatLast? 0 (some 1) t
    | '*' => r.repeatLast? 0 none t
    | '+' => r.repeatLast? 1 none t
    | '{' =>
      match readCounts t with
      | .found least most rest => r.repeatLast? least most rest
      | .literal => some (r.pushCode c.toNat, t)
      | .refused => none
    | '.' => some (r.pushChar .any, t)
    | '(' => r.open? t
    | ')' => r.close?.map (·, t)
    | '|' => some ({ r with top := r.top.endBranch }, t)
    | '^' => some (r.pushAnchor .lineStart, t)
    | '$' => some (r.pushAnchor .lineEnd, t)
    | _ => some (r.pushCode c.toNat, t)

/-- Reads all elements of a pattern. -/
def Reader.readAll? (r : Reader) : Text → Option Reader
  | [] => some r
  | c :: t =>
    match r.step? c t with
    | none => none
    | some (s, rest) => if _h : rest.length < (c :: t).length then s.readAll? rest else none
termination_by t => t.length
decreasing_by exact _h

/-- A pattern and the least width of its matches. -/
structure Reading where
  pattern : Pattern
  least : Nat

/-- The reading of a pattern at whose end the machine is: all groups are closed and those that
conditions name exist. -/
def Reader.finish? (r : Reader) : Option Reading :=
  if r.around.isEmpty && r.conditions.all (· < r.count) && !(r.flags.template && r.repeats) then
    some ⟨Part.joined r.top.contents, (Part.widthOf r.top.contents).least⟩
  else none

/-- Reads a regular expression, nothing if it is not one. -/
def read? (t : Text) : Option Reading := (Reader.start.readAll? t).bind Reader.finish?

end Pattern

/-- A text that is a regular expression. -/
structure Regex where
  source : Text
  reading : Pattern.Reading
  isReading : Pattern.read? source = some reading

namespace Regex

/-- Reads a regular expression. -/
def ofText? (t : Text) : Option Regex :=
  match h : Pattern.read? t with
  | some reading => some ⟨t, reading, h⟩
  | none => none

@[ext] theorem ext {a b : Regex} (h : a.source = b.source) : a = b := by
  obtain ⟨s, p, hp⟩ := a
  obtain ⟨t, q, hq⟩ := b
  obtain rfl : s = t := h
  obtain rfl : p = q := Option.some.inj (hp.symm.trans hq)
  rfl

instance : DecidableEq Regex := fun a b =>
  if h : a.source = b.source then isTrue (ext h) else isFalse fun e => h (congrArg source e)

theorem ofText?_source (r : Regex) : ofText? r.source = some r := by
  obtain ⟨s, p, hp⟩ := r
  unfold ofText?
  split
  · next reading h => exact congrArg some (ext rfl)
  · next h => simp [hp] at h

theorem source_of_ofText? {t : Text} {r : Regex} (h : ofText? t = some r) : r.source = t := by
  unfold ofText? at h
  split at h
  · exact (Option.some.inj h) ▸ rfl
  · simp at h

/-- Whether a text has a match. -/
def search (r : Regex) (t : Text) : Bool := r.reading.pattern.search r.reading.least t

end Regex

end FeedReader
