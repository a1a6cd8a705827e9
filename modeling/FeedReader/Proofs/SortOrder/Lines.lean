import FeedReader.Proofs.SortOrder.Grammar

/-!
# Sort orders as lines

* `keys_of_read`: a line gives at least one key;
* `isLine_text`: an order with a key is written as a line.
-/

namespace FeedReader.SortOrder

/-- What a line that does not start with a gap gives has a key. -/
theorem keys_of_read {t : Text} {o : SortOrder} (h : read t = .ok o) (line : Text.IsLine t) :
    o.keys ≠ [] := by
  intro none
  have written := isWritten_of_read h
  rw [none] at written
  obtain ⟨gaps, keys⟩ := written
  cases keys with
  | nil =>
    rw [List.append_nil] at line
    obtain ⟨c, s, rfl⟩ := List.exists_cons_of_ne_nil line.ne_nil
    have start : Text.isBlank c = false := line.trimmed.1 c rfl
    rcases gaps c List.mem_cons_self with rfl | rfl | rfl | rfl <;> exact absurd start (by decide)

theorem isWord_text (k : SortKey) : Text.IsWord k.text := by
  obtain ⟨f, d⟩ := k
  cases f <;> cases d <;> decide

/-- An order with a key is written as a line of words. -/
theorem isLine_text {o : SortOrder} (h : o.keys ≠ []) : Text.IsLine o.text :=
  Text.isLine_joinWith (by simpa using h) fun w hw => by
    obtain ⟨k, -, rfl⟩ := List.mem_map.1 hw
    exact isWord_text k

end FeedReader.SortOrder
