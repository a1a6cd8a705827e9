import FeedReader.Proofs.Result
import FeedReader.Proofs.SortOrder.Places
import FeedReader.Proofs.Text.Words

/-!
# The grammar of sort orders

A sort order is written as keys one after the other, each a keyword, perhaps after a direction,
with gaps anywhere between these parts. Reading accepts what is written in this way with different
fields, and nothing else.

* `IsGaps`, `IsKey`, `IsKeys`, `IsWritten`: the grammar, with the keys that are written;
* `readKeys_of_isKeys`: written keys are read;
* `isWritten_of_readKeys`: what has been read is written keys;
* `isKeys_text`, `read_text`: the canonical form of a sort order is read as that order;
* `read_iff_written`.
-/

namespace FeedReader.SortOrder

/-! ### The grammar -/

/-- Whether a text has nothing but spaces, tabs, line feeds and form feeds. -/
def IsGaps (t : Text) : Prop := ∀ c ∈ t, c = ' ' ∨ c = '\t' ∨ c = '\n' ∨ c = '\x0c'

/-- The written forms of a key: a keyword, which means the ascending direction, or a direction and a
keyword. -/
inductive IsKey : Text → SortKey → Prop
  | plain {gap after : Text} (f : SortField) : IsGaps gap → IsGaps after →
      IsKey (gap ++ (f.keyword ++ after)) ⟨f, .ascending⟩
  | directed {gap after : Text} (d : SortDirection) (f : SortField) : IsGaps gap → IsGaps after →
      IsKey (d.symbol :: (gap ++ (f.keyword ++ after))) ⟨f, d⟩

/-- The written forms of keys one after the other. -/
inductive IsKeys : Text → List SortKey → Prop
  | nil : IsKeys [] []
  | cons {t s : Text} {k : SortKey} {ks : List SortKey} : IsKey t k → IsKeys s ks →
      IsKeys (t ++ s) (k :: ks)

/-- The written forms of keys, with a gap before them. -/
inductive IsWritten : Text → List SortKey → Prop
  | keys {gap t : Text} {ks : List SortKey} : IsGaps gap → IsKeys t ks → IsWritten (gap ++ t) ks

@[ext] theorem ext {o p : SortOrder} (h : o.keys = p.keys) : o = p := by
  cases o
  cases p
  simp_all

variable {t s gap : Text} {k : SortKey} {ks : List SortKey} {o p : SortOrder} {x : Lexeme}
  {xs : List Lexeme} {position length : Nat}

theorem isGaps_nil : IsGaps [] := List.forall_mem_nil _

theorem isGaps_cons_iff {c : Char} : IsGaps (c :: t) ↔ isGap c = true ∧ IsGaps t := by
  simp [IsGaps, isGap, or_assoc]

/-! ### Tokens -/

theorem lexemesFrom_gaps (position : Nat) (h : IsGaps gap) (t : Text) :
    lexemesFrom position (gap ++ t) = lexemesFrom (position + gap.length) t := by
  induction gap generalizing position with
  | nil => rfl
  | cons c gap ih =>
    obtain ⟨hc, rest⟩ := isGaps_cons_iff.1 h
    rw [List.cons_append, lexemesFrom, if_pos hc, ih _ rest, List.length_cons,
      Nat.add_right_comm, Nat.add_assoc]

theorem lexemesFrom_symbol (position : Nat) (d : SortDirection) (t : Text) :
    lexemesFrom position (d.symbol :: t) =
      ⟨.direction d, position, [d.symbol]⟩ :: lexemesFrom (position + 1) t := by
  have solid : isGap d.symbol = false := by cases d <;> rfl
  have token : tokenAt d.symbol t = (.direction d, 1) := by cases d <;> rfl
  rw [lexemesFrom, if_neg (by simp [solid]), token]
  rfl

theorem lexemesFrom_keyword (position : Nat) (f : SortField) (t : Text) :
    lexemesFrom position (f.keyword ++ t) =
      ⟨.field f, position, f.keyword⟩ :: lexemesFrom (position + f.keyword.length) t := by
  obtain ⟨c, s, keyword⟩ : ∃ c s, f.keyword = c :: s := by cases f <;> exact ⟨_, _, rfl⟩
  have solid : isGap c = false := by cases f <;> cases keyword <;> rfl
  have token : tokenAt c (s ++ t) = (.field f, f.keyword.length) := by
    cases f <;> cases keyword <;> rfl
  rw [keyword, List.cons_append, lexemesFrom, if_neg (by simp [solid]), token]
  simp [keyword]

/-- How a token is written, if it is no error. -/
def Token.literal? : Token → Option Text
  | .direction d => some [d.symbol]
  | .field f => some f.keyword
  | .error => none

theorem take_tokenAt {c : Char} {w : Text} (h : (tokenAt c t).1.literal? = some w) :
    (c :: t).take (tokenAt c t).2 = w := by
  unfold tokenAt at h ⊢
  split_ifs at h ⊢ with ascending descending
  · obtain rfl := Option.some.inj h
    rw [ascending]
    rfl
  · obtain rfl := Option.some.inj h
    rw [descending]
    rfl
  · split at h
    · next f found =>
      obtain rfl := Option.some.inj h
      have start : f.keyword.isPrefixOf (c :: t) = true := by simpa using List.find?_some found
      dsimp only
      exact (List.prefix_iff_eq_take.1 (List.isPrefixOf_iff_prefix.1 start)).symm
    · cases h

/-- The first token stands behind a gap, and the others in what follows it. -/
theorem exists_of_lexemesFrom_cons (h : lexemesFrom position t = x :: xs) :
    ∃ gap rest next, t = gap ++ (x.text ++ rest) ∧ IsGaps gap ∧ lexemesFrom next rest = xs ∧
      ∀ w, x.token.literal? = some w → x.text = w := by
  induction position, t using lexemesFrom.induct with
  | case1 position => simp [lexemesFrom] at h
  | case2 position c t hc ih =>
    rw [lexemesFrom, if_pos hc] at h
    obtain ⟨gap, rest, next, rfl, gaps, others⟩ := ih h
    exact ⟨c :: gap, rest, next, rfl, isGaps_cons_iff.2 ⟨hc, gaps⟩, others⟩
  | case3 position c t solid size ih =>
    rw [lexemesFrom, if_neg solid] at h
    obtain ⟨rfl, others⟩ := List.cons.inj h
    have rest : (c :: t).drop size = t.drop (size - 1) := List.drop_cons (tokenAt_pos c t)
    refine ⟨[], t.drop (size - 1), _, ?_, isGaps_nil, others, fun w => take_tokenAt⟩
    rw [List.nil_append, ← rest, List.take_append_drop]

theorem isGaps_of_lexemesFrom_nil (h : lexemesFrom position t = []) : IsGaps t := by
  induction position, t using lexemesFrom.induct with
  | case1 position => exact isGaps_nil
  | case2 position c t hc ih =>
    rw [lexemesFrom, if_pos hc] at h
    exact isGaps_cons_iff.2 ⟨hc, ih h⟩
  | case3 position c t solid size ih =>
    rw [lexemesFrom, if_neg solid] at h
    cases h

/-! ### Reading what is written -/

theorem push?_eq_some (h : p.keys = o.keys ++ k :: ks) :
    ∃ q, o.push? k = some q ∧ q.keys = o.keys ++ [k] := by
  have fresh : k.field ∉ o.keys.map (·.field) := by
    have nodup := p.nodup
    rw [h, List.map_append, List.nodup_append] at nodup
    exact fun old => nodup.2.2 _ old _ (by simp) rfl
  exact ⟨_, dif_neg fresh, rfl⟩

/-- A written key is added to those before it, wherever it stands. -/
theorem readKeys_of_isKey (h : IsKey t k) {q : SortOrder} (pushed : o.push? k = some q) :
    ∃ next, readKeys length o (lexemesFrom position (t ++ s)) =
      readKeys length q (lexemesFrom next s) := by
  cases h with
  | plain f hg ha =>
    rw [List.append_assoc, List.append_assoc, lexemesFrom_gaps _ hg, lexemesFrom_keyword,
      lexemesFrom_gaps _ ha]
    simp only [readKeys, addKey, pushed]
    exact ⟨_, rfl⟩
  | directed d f hg ha =>
    rw [List.cons_append, List.append_assoc, List.append_assoc, lexemesFrom_symbol,
      lexemesFrom_gaps _ hg, lexemesFrom_keyword, lexemesFrom_gaps _ ha]
    simp only [readKeys, addKey, pushed]
    exact ⟨_, rfl⟩

/-- Written keys are read if the fields differ from one another and from those before them. -/
theorem readKeys_of_isKeys (h : IsKeys t ks) (keys : p.keys = o.keys ++ ks) :
    readKeys length o (lexemesFrom position t) = .ok p := by
  induction h generalizing o position with
  | nil =>
    obtain rfl : p = o := ext (by rw [keys, List.append_nil])
    rw [lexemesFrom, readKeys]
  | cons first _ ih =>
    obtain ⟨q, pushed, added⟩ := push?_eq_some keys
    obtain ⟨next, step⟩ := readKeys_of_isKey first pushed
    rw [step]
    exact ih (by rw [keys, added, List.append_assoc, List.singleton_append])

/-! ### What has been read is written -/

theorem keys_of_addKey {f : SortField} {d : SortDirection} (h : addKey o f d x = .ok p) :
    p.keys = o.keys ++ [⟨f, d⟩] := by
  unfold addKey push? at h
  split at h
  · next q pushed =>
    split at pushed
    · simp at pushed
    · obtain rfl := Except.ok.inj h
      obtain rfl := Option.some.inj pushed
      rfl
  · simp at h

theorem IsWritten.cons {w : Text} (hg : IsGaps gap) (key : ∀ after, IsGaps after →
    IsKey (w ++ after) k) (rest : IsWritten s ks) : IsWritten (gap ++ (w ++ s)) (k :: ks) := by
  obtain ⟨after, keys⟩ := rest
  rw [← List.append_assoc w]
  exact .keys hg (.cons (key _ after) keys)

/-- The keys that have been read are written in the text. -/
theorem isWritten_of_readKeys (h : readKeys length o (lexemesFrom position t) = .ok p) :
    ∃ ks, p.keys = o.keys ++ ks ∧ IsWritten t ks := by
  generalize lexed : lexemesFrom position t = xs at h
  induction o, xs using readKeys.induct generalizing position t with
  | case1 o =>
    obtain rfl := Except.ok.inj h
    have empty : IsWritten (t ++ []) [] := .keys (isGaps_of_lexemesFrom_nil lexed) .nil
    exact ⟨[], (List.append_nil _).symm, by rwa [List.append_nil] at empty⟩
  | case2 o x xs token => simp [readKeys, token] at h
  | case3 o x xs f token ih =>
    simp only [readKeys, token] at h
    obtain ⟨q, added, h⟩ := bind_eq_ok_iff.1 h
    obtain ⟨gap, rest, next, rfl, gaps, others, literal⟩ := exists_of_lexemesFrom_cons lexed
    obtain ⟨ks, keys, written⟩ := ih q others h
    rw [keys_of_addKey added, List.append_assoc] at keys
    refine ⟨_, keys, ?_⟩
    rw [literal f.keyword (by rw [token]; rfl)]
    exact .cons gaps (fun after => .plain f isGaps_nil) written
  | case4 o x d token => simp [readKeys, token] at h
  | case5 o x d token y ys f token' ih =>
    simp only [readKeys, token, token'] at h
    obtain ⟨q, added, h⟩ := bind_eq_ok_iff.1 h
    obtain ⟨gap, rest, next, rfl, gaps, others, literal⟩ := exists_of_lexemesFrom_cons lexed
    obtain ⟨gap', rest', next', rfl, gaps', others', literal'⟩ := exists_of_lexemesFrom_cons others
    obtain ⟨ks, keys, written⟩ := ih q others' h
    rw [keys_of_addKey added, List.append_assoc] at keys
    refine ⟨_, keys, ?_⟩
    rw [literal [d.symbol] (by rw [token]; rfl), literal' f.keyword (by rw [token']; rfl)]
    have key (after : Text) (gaps'' : IsGaps after) :
        IsKey (([d.symbol] ++ (gap' ++ f.keyword)) ++ after) ⟨f, d⟩ := by
      have form := IsKey.directed d f gaps' gaps''
      simpa using form
    simpa using IsWritten.cons gaps key written
  | case6 o x d token y ys token' => simp [readKeys, token] at h

/-! ### Sort orders -/

/-- A text is read as the keys that are written in it. -/
theorem read_of_isWritten (h : IsWritten t o.keys) : read t = .ok o := by
  generalize keys : o.keys = ks at h
  obtain ⟨gaps, written⟩ := h
  rw [read, tokenize, lexemesFrom_gaps _ gaps]
  exact readKeys_of_isKeys written (by rw [keys]; rfl)

theorem isWritten_of_read (h : read t = .ok o) : IsWritten t o.keys := by
  obtain ⟨ks, keys, written⟩ := isWritten_of_readKeys h
  rw [keys]
  exact written

/-- Keys in their canonical form, with a space between two of them. -/
theorem isKeys_text (ks : List SortKey) :
    IsKeys (Text.joinWith " " (ks.map SortKey.text)) ks := by
  have key (k : SortKey) {after : Text} (gaps : IsGaps after) : IsKey (k.text ++ after) k :=
    .directed k.direction k.field isGaps_nil gaps
  induction ks with
  | nil => exact .nil
  | cons k ks ih =>
    cases ks with
    | nil =>
      have one := IsKeys.cons (key k isGaps_nil) .nil
      simpa [Text.joinWith] using one
    | cons k' ks =>
      have space : IsGaps [' '] := by simp [IsGaps]
      rw [List.map_cons, List.map_cons, Text.joinWith_cons_cons]
      exact .cons (key k space) ih

/-- A sort order is read from its canonical form. -/
theorem read_text (o : SortOrder) : read o.text = .ok o :=
  read_of_isWritten (.keys isGaps_nil (isKeys_text o.keys))

/-- Reading succeeds exactly if keys with different fields are written in the text, and gives these
keys. What has been read is read again from its canonical form. -/
theorem read_iff_written (t : Text) :
    (∀ ks, (∃ o, read t = .ok o ∧ o.keys = ks) ↔
        IsWritten t ks ∧ (ks.map (·.field)).Nodup) ∧
      ∀ o, read t = .ok o → read o.text = read t := by
  refine ⟨fun ks => ⟨?_, ?_⟩, fun o h => ?_⟩
  · rintro ⟨o, h, rfl⟩
    exact ⟨isWritten_of_read h, o.nodup⟩
  · rintro ⟨written, nodup⟩
    exact ⟨⟨ks, nodup⟩, read_of_isWritten written, rfl⟩
  · rw [read_text, h]

/-- Keywords that run together, and a direction far away from its keyword. -/
theorem read_iff_written_together :
    let t : Text := "\ttitlefeed>\n date".toList
    let keys : List SortKey := [⟨.title, .ascending⟩, ⟨.feed, .ascending⟩, ⟨.date, .descending⟩]
    IsWritten t keys ∧ ∃ o, read t = .ok o ∧ o.keys = keys ∧ read o.text = read t := by
  intro t keys
  have title : IsKey "title".toList ⟨.title, .ascending⟩ := .plain .title isGaps_nil isGaps_nil
  have feed : IsKey "feed".toList ⟨.feed, .ascending⟩ := .plain .feed isGaps_nil isGaps_nil
  have gap : IsGaps "\n ".toList := by simp [IsGaps]
  have date : IsKey ">\n date".toList ⟨.date, .descending⟩ :=
    .directed .descending .date gap isGaps_nil
  have tab : IsGaps "\t".toList := by simp [IsGaps]
  have written : IsWritten t keys := .keys tab (.cons title (.cons feed (.cons date .nil)))
  obtain ⟨accepted, again⟩ := read_iff_written t
  obtain ⟨o, h, same⟩ := (accepted keys).2 ⟨written, by decide⟩
  exact ⟨written, o, h, same, again o h⟩

end FeedReader.SortOrder
