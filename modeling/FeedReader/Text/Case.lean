import FeedReader.Text.Basic
import FeedReader.Text.CaseTable

/-!
# Letter case

Both case maps are the full ones: a letter may become several characters, and a capital sigma at
the end of a word becomes a final sigma.

* `lower`, built on `lowerAfter`, which carries whether the last letter passed has case;
* `upper`, character by character.
-/

namespace FeedReader.Text

/-- The lower-case form of a character, out of context. -/
def lowerChar (c : Char) : Text :=
  if c = 'İ' then ['i', '\u0307']
  else [(CaseRun.find? lowerRuns c.toNat).elim c Char.ofNat]

/-- The upper-case form of a character. -/
def upperChar (c : Char) : Text :=
  match upperExpansions.lookup c.toNat with
  | some codes => codes.map Char.ofNat
  | none => [(CaseRun.find? upperRuns c.toNat).elim c Char.ofNat]

/-- Whether the first character that is not passed over is a letter with case. -/
def startsCased : Text → Bool
  | [] => false
  | c :: t => if caseIgnorable.contains c then startsCased t else cased.contains c

/-- Whether the last character that is not passed over is a letter with case, after `c` has been
read and given the answer before it. -/
def casedAfter (before : Bool) (c : Char) : Bool :=
  if caseIgnorable.contains c then before else cased.contains c

/-- Lower case, given whether the last letter before the text has case. -/
def lowerAfter : Bool → Text → Text
  | _, [] => []
  | before, c :: t =>
    (if c = 'Σ' then [if before && !startsCased t then 'ς' else 'σ'] else lowerChar c) ++
      lowerAfter (casedAfter before c) t

/-- The text in lower case. -/
def lower (t : Text) : Text := lowerAfter false t

/-- The text in upper case. -/
def upper (t : Text) : Text := t.flatMap upperChar

end FeedReader.Text
