import FeedReader.Text.Basic

/-!
# Code points in letters and digits

A sequence of code points is written in ASCII: first those of ASCII as they are, then, after a
hyphen, the others in ascending order, each as the distance to the one before it. Distances are
written in base 36 with the lowest digit first, and each digit's threshold tells whether it is the
last one.

* `threshold`, `adapted`: the thresholds, which follow the sizes of the distances;
* `encode`, `decode?`.
-/

namespace FeedReader.Url.Punycode

/-! ### Digits and thresholds -/

/-- The character of a digit below 36. -/
def digitChar (d : Nat) : Char :=
  if d < 26 then Char.ofNat ('a'.toNat + d) else Char.ofNat ('0'.toNat + (d - 26))

/-- The value of a digit. -/
def digitValue? (c : Char) : Option Nat :=
  if c.isLower then some (c.toNat - 'a'.toNat)
  else if c.isUpper then some (c.toNat - 'A'.toNat)
  else if c.isDigit then some (c.toNat - '0'.toNat + 26)
  else none

/-- Below its threshold, the digit in place `k` is the last one. -/
def threshold (bias k : Nat) : Nat := min (max (36 * (k + 1) - bias) 1) 26

theorem threshold_pos (bias k : Nat) : 0 < threshold bias k := by
  unfold threshold
  omega

/-- Makes a distance small and counts the steps. -/
def scaled (steps delta : Nat) : Nat × Nat :=
  if _h : 455 < delta then scaled (steps + 1) (delta / 35) else (steps, delta)
termination_by delta
decreasing_by exact Nat.div_lt_self (by omega) (by omega)

/-- The bias after a distance; `count` is the number of code points up to there. -/
def adapted (delta : Nat) (isFirst : Bool) (count : Nat) : Nat :=
  let d := if isFirst then delta / 700 else delta / 2
  let (steps, d) := scaled 0 (d + d / count)
  36 * steps + 36 * d / (d + 38)

/-! ### Writing -/

/-- The digits of a distance from place `k` on. -/
def digits (bias : Nat) (k n : Nat) : Text :=
  let t := threshold bias k
  if _h : n < t then [digitChar n]
  else digitChar (t + (n - t) % (36 - t)) :: digits bias (k + 1) ((n - t) / (36 - t))
termination_by n
decreasing_by
  have h := threshold_pos bias k
  exact Nat.lt_of_le_of_lt (Nat.div_le_self _ _) (by omega)

/-- What has been written, the distance since then, the bias, and the number of code points that are
done. -/
structure Progress where
  written : Text
  delta : Nat
  bias : Nat
  count : Nat

/-- Passes a code point while those with value `n` are written. -/
def Progress.pass (basic n : Nat) (p : Progress) (code : Nat) : Progress :=
  if code < n then { p with delta := p.delta + 1 }
  else if code = n then
    { written := p.written ++ digits p.bias 0 p.delta
      delta := 0
      bias := adapted p.delta (p.count = basic) (p.count + 1)
      count := p.count + 1 }
  else p

/-- Writes the code points of each value in turn; `n` is the least value that may come next. -/
def Progress.writeAll (basic : Nat) (codes : List Nat) (n : Nat) (p : Progress) :
    List Nat → Progress
  | [] => p
  | value :: values =>
    let p := { p with delta := p.delta + (value - n) * (p.count + 1) }
    let p := codes.foldl (Progress.pass basic value) p
    writeAll basic codes (value + 1) { p with delta := p.delta + 1 } values

/-- The least code point outside of ASCII. -/
def firstCode : Nat := 0x80

/-- Code points in letters, digits and hyphens. -/
def encode (codes : List Nat) : Text :=
  let basic := codes.filter (· < firstCode)
  let values := ((codes.filter (firstCode ≤ ·)).eraseDups).mergeSort fun a b => a ≤ b
  let start : Progress := ⟨[], 0, 72, basic.length⟩
  basic.map Char.ofNat ++ (if basic.isEmpty then [] else ['-']) ++
    (Progress.writeAll basic.length codes firstCode start values).written

/-! ### Reading -/

/-- Reads the digits of a distance from place `k` on, where a digit counts `weight` times. -/
def readDigits? (bias : Nat) : Nat → Nat → Nat → Text → Option (Nat × Text)
  | _, _, _, [] => none
  | k, weight, n, c :: t =>
    (digitValue? c).bind fun d =>
      let n := n + d * weight
      if d < threshold bias k then some (n, t)
      else readDigits? bias (k + 1) (weight * (36 - threshold bias k)) n t

theorem length_of_readDigits? {bias k weight n m : Nat} {t rest : Text}
    (h : readDigits? bias k weight n t = some (m, rest)) : rest.length < t.length := by
  induction t generalizing k weight n with
  | nil => simp [readDigits?] at h
  | cons c t ih =>
    simp only [readDigits?, Option.bind_eq_some_iff] at h
    obtain ⟨d, -, h⟩ := h
    split at h
    · simp only [Option.some.injEq, Prod.mk.injEq] at h
      simp [h.2]
    · exact Nat.lt_succ_of_lt (ih h)

/-- Puts the code points that a text tells of among those that are there: `code` is the last one,
and `place` the place after it. -/
def insertAll? (bias code place : Nat) (isFirst : Bool) (codes : List Nat) (t : Text) :
    Option (List Nat) :=
  if t = [] then some codes
  else
    match _h : readDigits? bias 0 1 0 t with
    | none => none
    | some (delta, rest) =>
      let count := codes.length + 1
      let code := code + (place + delta) / count
      let place := (place + delta) % count
      if code ≤ 0x10FFFF then
        insertAll? (adapted delta isFirst count) code (place + 1) false
          (codes.take place ++ code :: codes.drop place) rest
      else none
termination_by t.length
decreasing_by exact length_of_readDigits? _h

/-- What stands before the last hyphen, and what stands after it. -/
def splitHyphen (t : Text) : Text × Text :=
  let tail := t.reverse.takeWhile (· != '-')
  ((t.reverse.drop (tail.length + 1)).reverse, tail.reverse)

/-- The code points that a text in letters, digits and hyphens stands for. -/
def decode? (t : Text) : Option (List Nat) :=
  let (basic, rest) := splitHyphen t
  insertAll? 72 firstCode 0 true (basic.map Char.toNat) rest

end FeedReader.Url.Punycode
