import FeedReader.Proofs.Result
import FeedReader.Proofs.Text.Pieces
import FeedReader.SortOrder.Reader

/-!
# Where the errors of a sort order point

* `tokenAt_pos`, `tokenAt_le`: a token takes up characters, and only those that there are;
* `exists_standsAt_of_mem`: each lexeme stands in the text where it says;
* `error_of_readKeys`: what an error is about;
* `pointsInto_of_read`.
-/

namespace FeedReader.SortOrder

/-! ### Tokens -/

theorem tokenAt_pos (c : Char) (t : Text) : 0 < (tokenAt c t).2 := by
  unfold tokenAt
  split
  · exact Nat.one_pos
  · split
    · exact Nat.one_pos
    · split
      · next f _ => cases f <;> decide
      · exact Nat.one_pos

theorem tokenAt_le (c : Char) (t : Text) : (tokenAt c t).2 ≤ (c :: t).length := by
  have one : 1 ≤ (c :: t).length := Nat.succ_pos _
  unfold tokenAt
  split
  · exact one
  · split
    · exact one
    · split
      · next f found =>
        have start : f.keyword.isPrefixOf (c :: t) = true := by simpa using List.find?_some found
        exact (List.isPrefixOf_iff_prefix.1 start).length_le
      · exact one

/-- The lexemes of what follows some text stand in the whole behind that text. -/
theorem exists_standsAt_of_mem {p : Nat} {t : Text} {x : Lexeme} (mem : x ∈ lexemesFrom p t) :
    ∃ n, x.start = p + n ∧ t.StandsAt n x.text ∧ x.text ≠ [] := by
  induction p, t using lexemesFrom.induct with
  | case1 p => simp [lexemesFrom] at mem
  | case2 p c t gap ih =>
    rw [lexemesFrom, if_pos gap] at mem
    obtain ⟨n, start, stands, ne_nil⟩ := ih mem
    have behind : Text.StandsAt (c :: t) 1 t := Text.standsAt_drop (Nat.succ_pos _)
    exact ⟨1 + n, by omega, behind.trans stands, ne_nil⟩
  | case3 p c t solid size ih =>
    have pos : 0 < size := tokenAt_pos c t
    have le : size ≤ (c :: t).length := tokenAt_le c t
    rw [lexemesFrom, if_neg solid] at mem
    rcases List.mem_cons.1 mem with rfl | mem
    · refine ⟨0, rfl, Text.standsAt_take _, ?_⟩
      simpa using Nat.ne_of_gt pos
    · obtain ⟨n, start, stands, ne_nil⟩ := ih mem
      have rest : (c :: t).drop size = t.drop (size - 1) := List.drop_cons pos
      have behind := Text.standsAt_drop le
      exact ⟨size + n, by omega, behind.trans (rest ▸ stands), ne_nil⟩

/-! ### Errors -/

theorem error_of_addKey {o : SortOrder} {f : SortField} {d : SortDirection} {x : Lexeme} {e : Error}
    (h : addKey o f d x = .error e) : e = x.error .duplicateKey := by
  unfold addKey at h
  split at h
  · simp at h
  · exact (Except.error.inj h).symm

/-- An error is about one of the tokens, or about a key that is missing at the end. -/
theorem error_of_readKeys {length : Nat} {o : SortOrder} {xs : List Lexeme} {e : Error}
    (h : readKeys length o xs = .error e) :
    (∃ x ∈ xs, ∃ fault, e = x.error fault) ∨ e = ⟨.keyExpected, length, []⟩ := by
  induction o, xs using readKeys.induct with
  | case1 o => simp [readKeys] at h
  | case2 o x xs token =>
    simp only [readKeys, token, Except.error.injEq] at h
    exact .inl ⟨x, by simp, _, h.symm⟩
  | case3 o x xs f token ih =>
    simp only [readKeys, token] at h
    rcases bind_eq_error_iff.1 h with failed | ⟨q, -, h⟩
    · exact .inl ⟨x, by simp, _, error_of_addKey failed⟩
    · refine (ih q h).imp_left ?_
      rintro ⟨y, mem, found⟩
      exact ⟨y, by simp [mem], found⟩
  | case4 o x d token =>
    simp only [readKeys, token, Except.error.injEq] at h
    exact .inr h.symm
  | case5 o x d token y ys f token' ih =>
    simp only [readKeys, token, token'] at h
    rcases bind_eq_error_iff.1 h with failed | ⟨q, -, h⟩
    · exact .inl ⟨y, by simp, _, error_of_addKey failed⟩
    · refine (ih q h).imp_left ?_
      rintro ⟨z, mem, found⟩
      exact ⟨z, by simp [mem], found⟩
  | case6 o x d token y ys token' =>
    simp only [readKeys, token, Except.error.injEq] at h
    exact .inl ⟨y, by simp, _, h.symm⟩

/-- An error points at a token of the text, or at the end of the text. -/
theorem pointsInto_of_read {t : Text} {e : Error} (h : read t = .error e) :
    t.PointsInto e.offset e.fragment := by
  rcases error_of_readKeys h with ⟨x, mem, fault, rfl⟩ | rfl
  · obtain ⟨n, start, stands, ne_nil⟩ := exists_standsAt_of_mem mem
    obtain rfl : x.start = n := by omega
    exact stands.pointsInto ne_nil
  · exact Text.pointsInto_end t

end FeedReader.SortOrder
