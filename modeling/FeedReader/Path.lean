import FeedReader.Text.Basic

/-!
# File paths

A path is taken apart at its slashes. Empty parts and parts that are a single point mean nothing and
are left out; two points are kept, since what they mean depends on the files.

* `Path`, `Path.ofText`, `Path.text`;
* `Path.expand?`: a leading tilde stands for the home directory.
-/

namespace FeedReader

/-- The slashes that a path begins with, and its parts. -/
structure Path where
  root : Text
  parts : List Text
  deriving DecidableEq

namespace Path

/-- The root of a path: exactly two slashes are one of their own, and all others are one slash. -/
def rootOf (t : Text) : Text :=
  match (t.takeWhile (· = '/')).length with
  | 0 => []
  | 2 => "//"
  | _ => "/"

/-- Whether a part of a path says anything. -/
def isPart (t : Text) : Bool := t ≠ [] && t ≠ ['.']

/-- The path that a text stands for. -/
def ofText (t : Text) : Path := ⟨rootOf t, (Text.splitAtEach '/' t).filter isPart⟩

/-- The written form of a path; the path without root and parts is a point. -/
def text (p : Path) : Text :=
  if p.root = [] ∧ p.parts = [] then "." else p.root ++ Text.joinWith "/" p.parts

/-- A path inside another one. -/
def append (p : Path) (parts : List Text) : Path := ⟨p.root, p.parts ++ parts⟩

/-- The home directory of the superuser, whose name after a tilde stands for it. -/
def superuserHome : Path := ⟨"/", ["root"]⟩

/-- The path with the home directory in place of a leading tilde, with or without the name of the
superuser; nothing if it begins with the home directory of somebody else. -/
def expand? (p home : Path) : Option Path :=
  match p.root, p.parts with
  | [], ['~'] :: parts => some (home.append parts)
  | [], ('~' :: name@(_ :: _)) :: parts =>
    if name = "root".toList then some (superuserHome.append parts) else none
  | _, _ => some p

end Path

end FeedReader
