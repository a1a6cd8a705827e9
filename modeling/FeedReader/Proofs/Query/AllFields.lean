import FeedReader.Proofs.Text.Pieces
import FeedReader.Query.Clause

/-!
# Searching all fields

The texts of an article and its feed are searched together, with a space between neighbours. What
has no space in it is found there exactly if it is found in one of the texts.

* `Field.parts`, `content?_all`: the texts that are searched together;
* `SearchTerm.Solid`: the terms without a space;
* `SearchTerm.holds_joinWith`: such a term and texts with spaces between them;
* `holds_all_iff`.
-/

namespace FeedReader.Query

/-! ### What is searched together -/

/-- The fields that are searched together, in the order of their texts. -/
def Field.parts : List Field := [title, summary, author, feed, feedUrl, feedWebUrl]

theorem Field.mem_parts {f : Field} : f ∈ parts ↔ f ≠ all := by cases f <;> decide

/-- The content of all fields; texts that are missing count as empty. -/
theorem Field.content?_all (s : Subject) :
    all.content? s = some (Text.joinWith [' '] (parts.map fun f => (f.content? s).getD [])) := rfl

/-! ### Terms without a space -/

/-- Whether a term is a word or a verbatim text without a space, and not empty. -/
def SearchTerm.Solid : SearchTerm → Prop
  | word w => w ≠ [] ∧ ∀ c ∈ w, Text.isWordChar c = true
  | verbatim t => t ≠ [] ∧ ' ' ∉ t
  | regex _ => False

namespace SearchTerm

variable {term : SearchTerm}

theorem space_not_mem_word {w : Text} (h : ∀ c ∈ w, Text.isWordChar c = true) : ' ' ∉ w := by
  intro space
  exact absurd (h ' ' space) (by decide)

/-- A term without a space is found in texts with spaces between them exactly if it is found in one
of them. A word is searched in lower case, which the spaces keep apart for each text. -/
theorem holds_joinWith (solid : term.Solid) (pieces : List Text) :
    term.holds (Text.joinWith [' '] pieces) = true ↔
      ∃ piece ∈ pieces, term.holds piece = true := by
  cases term with
  | verbatim t =>
    obtain ⟨ne_nil, free⟩ := solid
    simp only [holds, Text.occursIn_iff]
    exact Text.infix_joinWith_iff ne_nil free pieces
  | word w =>
    obtain ⟨ne_nil, letters⟩ := solid
    have free := Text.space_not_mem_lower (space_not_mem_word letters)
    simp only [holds, Text.occursIn_iff]
    rw [Text.lower_joinWith (by decide), Text.infix_joinWith_iff (Text.lower_ne_nil ne_nil) free]
    simp only [List.mem_map, exists_exists_and_eq_and]
  | regex r => exact solid.elim

theorem holds_nil (solid : term.Solid) : term.holds [] = false := by
  have none := holds_joinWith solid []
  simpa [Text.joinWith] using none

end SearchTerm

/-! ### All fields -/

/-- A word, or a verbatim text without a space, is found in all fields together exactly if one of
the fields has it. -/
theorem holds_all_iff {term : SearchTerm} (solid : term.Solid) (s : Subject) :
    (Atom.field .all term).holds s = true ↔
      ∃ f, f ≠ Field.all ∧ (Atom.field f term).holds s = true := by
  -- a missing text has nothing in it, like an empty one
  have found (f : Field) : (Atom.field f term).holds s = term.holds ((f.content? s).getD []) := by
    rw [Atom.holds]
    cases f.content? s with
    | none => exact (SearchTerm.holds_nil solid).symm
    | some content => rfl
  rw [found, Field.content?_all, Option.getD_some, SearchTerm.holds_joinWith solid]
  simp only [List.mem_map, exists_exists_and_eq_and, Field.mem_parts, found]

/-- The last letter of the title takes the form it has at the end of a word, also where the summary
follows it. -/
theorem holds_all_iff_sigma :
    let s : Subject :=
      { article :=
          ⟨"a", "f", .ofUtc ⟨0, by decide⟩, .ofUtc ⟨0, by decide⟩, some "ΟΔΟΣ".toList,
            some "ΑΒ".toList, none, none, .unread, .unmarked⟩
        feed := none
        tags := []
        lastSync := .ofUtc ⟨0, by decide⟩ }
    SearchTerm.Solid (.word "δος") ∧ (Atom.field .title (.word "δος")).holds s = true ∧
      (Atom.field .all (.word "δος")).holds s = true := by
  intro s
  have letters : "δος".toList.all Text.isWordChar = true := by decide +kernel
  have solid : SearchTerm.Solid (.word "δος") := ⟨by decide, List.all_eq_true.1 letters⟩
  have title : (Atom.field .title (.word "δος")).holds s = true := by decide +kernel
  exact ⟨solid, title, (holds_all_iff solid s).2 ⟨.title, by decide, title⟩⟩

end FeedReader.Query
