import FeedReader.Proofs.Query.Tokens
import FeedReader.Proofs.Result
import FeedReader.Query.Reader

/-!
# What a query that can be read looks like

* `token_of_readTerm`, `token_of_readTags`, …: one lemma for each reader of a second token;
* `Item.Takes`: an item with the tokens it has been read from, and `exists_takes_of_readItem`;
* `Atom.Origin`, `origin_of_readItem`: where a condition comes from;
* `reading_induction`: induction along the items of a query that can be read;
* `readFrom_append`: tokens that can be read, and more tokens after them;
* `tokens_of_readFrom`: tokens that can be read are no errors;
* `error_of_readFrom`: what reading fails at.
-/

namespace FeedReader.Query

variable {now : Moment} {length : Nat}

/-! ### Second tokens -/

theorem token_of_readTerm {x : Lexeme} {term : SearchTerm} (h : readTerm x = .ok term) :
    x.token ≠ .error := by
  rcases SearchTerm.token_of_ofLexeme (mapError_eq_ok_iff.1 h) with token | token | token <;>
    simp [token]

theorem token_of_readTags {x : Lexeme} {labels : List Text} (h : readTags x = .ok labels) :
    x.token ≠ .error := by
  intro error
  simp [readTags, error] at h

theorem token_of_readTime {x : Lexeme} {time : Moment} (h : readTime now x = .ok time) :
    x.token ≠ .error := by
  intro error
  simp [readTime, error] at h

theorem token_of_readSort {sort : Option SortOrder} {x : Lexeme} {o : SortOrder}
    (h : readSort sort x = .ok o) : x.token = .quoted := by
  by_contra other
  simp [readSort, other] at h

theorem readSecond_eq_ok {fault : Fault} {read : Lexeme → Result Item} {xs rest : List Lexeme}
    {item : Item} :
    readSecond length fault read xs = .ok (item, rest) ↔
      ∃ y, xs = y :: rest ∧ read y = .ok item := by
  constructor
  · intro h
    cases xs with
    | nil => simp [readSecond, failAt] at h
    | cons y ys =>
      obtain ⟨found, hy, same⟩ := map_eq_ok_iff.1 h
      obtain ⟨rfl, rfl⟩ := Prod.mk.inj same
      exact ⟨y, rfl, hy⟩
  · rintro ⟨y, rfl, hy⟩
    rw [readSecond, hy]
    rfl

/-! ### Items -/

/-- An item that is read from a lexeme and those that it takes up behind it, whatever comes after
them; a condition is read whether there is a sort order or not, and a sort order just once. -/
structure Item.Takes (now : Moment) (sort : Option SortOrder) (x : Lexeme) (taken : List Lexeme)
    (item : Item) : Prop where
  token : ∀ y ∈ x :: taken, y.token ≠ .error
  reads : ∀ length ys, readItem now length sort x (taken ++ ys) = .ok (item, ys)
  condition : ∀ atom, item = .condition atom →
    ∀ sort length ys, readItem now length sort x (taken ++ ys) = .ok (item, ys)
  sorted : ∀ o, item = .sort o → ∀ first length ys, ∃ e : Error, e.fault = .multipleSortOrders ∧
    readItem now length (some first) x (taken ++ ys) = .error (.own e)

/-- A condition that is read from its tokens. -/
theorem Item.takes_condition {sort : Option SortOrder} {x : Lexeme} {taken : List Lexeme}
    {atom : Atom} (token : ∀ y ∈ x :: taken, y.token ≠ .error)
    (reads : ∀ sort length ys,
      readItem now length sort x (taken ++ ys) = .ok (.condition atom, ys)) :
    Takes now sort x taken (.condition atom) where
  token := token
  reads := reads sort
  condition := fun _ _ => reads
  sorted := nofun

theorem Item.takes_sort {sort : Option SortOrder} {x y : Lexeme} {o : SortOrder}
    (key : x.token = .keyword .sort) (h : readSort sort y = .ok o) :
    Takes now sort x [y] (.sort o) where
  token := by simp [key, token_of_readSort h]
  reads := fun length ys => by simp [readItem, key, readSecond, h, Except.map]
  condition := nofun
  sorted := fun o same first length ys => by
    refine ⟨y.error .multipleSortOrders, rfl, ?_⟩
    simp [readItem, key, readSecond, readSort, token_of_readSort h, Except.map]

/-- What an item takes up is all that reading it depends on. -/
theorem exists_takes_of_readItem {sort : Option SortOrder} {x : Lexeme} {xs rest : List Lexeme}
    {item : Item} (h : readItem now length sort x xs = .ok (item, rest)) :
    ∃ taken, xs = taken ++ rest ∧ item.Takes now sort x taken := by
  unfold readItem at h
  split at h
  case h_7 key =>
    obtain ⟨time, found, same⟩ := map_eq_ok_iff.1 h
    obtain ⟨rfl, rfl⟩ := Prod.mk.inj same
    refine ⟨[], rfl, Item.takes_condition (by simp [key]) fun sort length ys => ?_⟩
    simp [readItem, key, found, Except.map]
  case h_8 f key =>
    obtain ⟨y, rfl, hy⟩ := readSecond_eq_ok.1 h
    obtain ⟨term, found, rfl⟩ := map_eq_ok_iff.1 hy
    have token := token_of_readTerm found
    refine ⟨[y], rfl, Item.takes_condition (by simp [key, token]) fun sort length ys => ?_⟩
    simp [readItem, key, readSecond, found, Except.map]
  case h_9 key =>
    obtain ⟨y, rfl, hy⟩ := readSecond_eq_ok.1 h
    obtain ⟨labels, found, rfl⟩ := map_eq_ok_iff.1 hy
    have token := token_of_readTags found
    refine ⟨[y], rfl, Item.takes_condition (by simp [key, token]) fun sort length ys => ?_⟩
    simp [readItem, key, readSecond, found, Except.map]
  case h_10 b key =>
    obtain ⟨y, rfl, hy⟩ := readSecond_eq_ok.1 h
    obtain ⟨time, found, rfl⟩ := map_eq_ok_iff.1 hy
    have token := token_of_readTime found
    refine ⟨[y], rfl, Item.takes_condition (by simp [key, token]) fun sort length ys => ?_⟩
    simp [readItem, key, readSecond, found, Except.map]
  case h_11 key =>
    obtain ⟨y, rfl, hy⟩ := readSecond_eq_ok.1 h
    obtain ⟨o, found, rfl⟩ := map_eq_ok_iff.1 hy
    exact ⟨[y], rfl, Item.takes_sort key found⟩
  case h_2 key | h_3 s key | h_4 s key | h_5 key | h_6 key | h_12 key | h_13 key =>
    obtain ⟨rfl, rfl⟩ := Prod.mk.inj (Except.ok.inj h)
    refine ⟨[], rfl, Item.takes_condition (by simp [key]) fun sort length ys => ?_⟩
    simp [readItem, key]
  all_goals simp [failAt] at h

/-! ### Where conditions come from -/

/-- Where a condition that has been read comes from: its keyword, or the clock, or one of the tokens
that have been read. -/
inductive Atom.Origin (now : Moment) (tokens : List Lexeme) : Atom → Prop
  | always : Origin now tokens .always
  | read (s : ReadState) : Origin now tokens (.read s)
  | mark (s : MarkState) : Origin now tokens (.mark s)
  | tagged : Origin now tokens .tagged
  | lastSync : Origin now tokens .lastSync
  | today {time : Moment} (found : dayBefore now = .ok time) :
    Origin now tokens (.bound .newer time)
  | bound (b : Bound) {y : Lexeme} {time : Moment} (mem : y ∈ tokens)
    (found : readTime now y = .ok time) : Origin now tokens (.bound b time)
  | field (f : Field) {y : Lexeme} {term : SearchTerm} (mem : y ∈ tokens)
    (found : readTerm y = .ok term) : Origin now tokens (.field f term)
  | tag {y : Lexeme} (mem : y ∈ tokens) (token : y.token = .tagList) :
    Origin now tokens (.tag (tagLabels y.text))

theorem Atom.Origin.mono {atom : Atom} {xs ys : List Lexeme} (h : atom.Origin now xs)
    (sub : xs ⊆ ys) : atom.Origin now ys := by
  cases h with
  | always => exact .always
  | read s => exact .read s
  | mark s => exact .mark s
  | tagged => exact .tagged
  | lastSync => exact .lastSync
  | today found => exact .today found
  | bound b mem found => exact .bound b (sub mem) found
  | field f mem found => exact .field f (sub mem) found
  | tag mem token => exact .tag (sub mem) token

theorem origin_of_readItem {sort : Option SortOrder} {x : Lexeme} {xs rest : List Lexeme}
    {atom : Atom} (h : readItem now length sort x xs = .ok (.condition atom, rest)) :
    atom.Origin now (x :: xs) := by
  unfold readItem at h
  split at h
  case h_2 => cases h; exact .always
  case h_3 s _ => cases h; exact .read s
  case h_4 s _ => cases h; exact .mark s
  case h_5 => cases h; exact .tagged
  case h_6 => cases h; exact .lastSync
  case h_7 =>
    obtain ⟨time, found, same⟩ := map_eq_ok_iff.1 h
    cases same
    exact .today found
  case h_8 f _ =>
    obtain ⟨y, rfl, hy⟩ := readSecond_eq_ok.1 h
    obtain ⟨term, found, same⟩ := map_eq_ok_iff.1 hy
    cases same
    exact .field f (by simp) found
  case h_9 =>
    obtain ⟨y, rfl, hy⟩ := readSecond_eq_ok.1 h
    obtain ⟨labels, found, same⟩ := map_eq_ok_iff.1 hy
    cases same
    unfold readTags at found
    split at found
    · next token =>
      cases found
      exact .tag (by simp) token
    · simp at found
  case h_10 b _ =>
    obtain ⟨y, rfl, hy⟩ := readSecond_eq_ok.1 h
    obtain ⟨time, found, same⟩ := map_eq_ok_iff.1 hy
    cases same
    exact .bound b (by simp) found
  case h_11 =>
    obtain ⟨y, rfl, hy⟩ := readSecond_eq_ok.1 h
    obtain ⟨o, found, same⟩ := map_eq_ok_iff.1 hy
    cases same
  case h_12 token => cases h; exact .tag List.mem_cons_self token
  case h_13 token =>
    cases h
    refine .field .all List.mem_cons_self ?_
    simp [readTerm, SearchTerm.ofLexeme, token, Except.mapError]
  all_goals simp [failAt] at h

/-! ### Queries -/

/-- Induction along the items of a query that can be read, from its end. -/
theorem reading_induction {q : Progress}
    {motive : ∀ negated p xs, readFrom now length negated p xs = .ok q → Prop}
    (done : ∀ h, motive false q [] h)
    (negate : ∀ {p x xs} (_ : x.token = .keyword .negate)
      (rest : readFrom now length true p xs = .ok q) (h),
      motive true p xs rest → motive false p (x :: xs) h)
    (item : ∀ {negated p x taken ys} {item : Item} (_ : x.token ≠ .keyword .negate)
      (_ : item.Takes now p.sort x taken)
      (rest : readFrom now length false (p.take negated item) ys = .ok q) (h),
      motive false (p.take negated item) ys rest → motive negated p (x :: (taken ++ ys)) h)
    {negated : Bool} {p : Progress} {xs : List Lexeme}
    (h : readFrom now length negated p xs = .ok q) : motive negated p xs h := by
  induction negated, p, xs using readFrom.induct now length with
  | case1 p => simp [readFrom_nil, failAt] at h
  | case2 negated p hn =>
    obtain rfl : negated = false := by simpa using hn
    obtain rfl : p = q := by simpa [readFrom_nil] using h
    exact done h
  | case3 p x xs hx => simp [readFrom_cons_of_negate hx, failAt] at h
  | case4 negated p x xs hx hn ih =>
    obtain rfl : negated = false := by simpa using hn
    have rest : readFrom now length true p xs = .ok q := by
      rwa [readFrom_cons_of_negate hx, if_neg hn] at h
    exact negate hx rest h (ih rest)
  | case5 negated p x xs hx e he => simp [readFrom_cons hx, he, Except.bind] at h
  | case6 negated p x xs hx found ys hi ih =>
    have rest : readFrom now length false (p.take negated found) ys = .ok q := by
      rwa [readFrom_cons hx, hi] at h
    obtain ⟨taken, rfl, takes⟩ := exists_takes_of_readItem hi
    exact item hx takes rest h (ih rest)

/-- Tokens that can be read leave it to the tokens after them what is read next. -/
theorem readFrom_append {negated : Bool} {p q : Progress} {xs : List Lexeme}
    (h : readFrom now length negated p xs = .ok q) (length' : Nat) (ys : List Lexeme) :
    readFrom now length' negated p (xs ++ ys) = readFrom now length' false q ys := by
  induction h using reading_induction with
  | done => rfl
  | negate hx _ _ ih =>
    rw [List.cons_append, readFrom_cons_of_negate hx]
    exact ih
  | item hx takes _ _ ih =>
    rw [List.cons_append, List.append_assoc, readFrom_cons hx, takes.reads]
    exact ih

theorem tokens_of_readFrom {negated : Bool} {p q : Progress} {xs : List Lexeme}
    (h : readFrom now length negated p xs = .ok q) : ∀ x ∈ xs, x.token ≠ .error := by
  induction h using reading_induction with
  | done => exact List.forall_mem_nil _
  | negate hx _ _ ih => exact List.forall_mem_cons.2 ⟨by simp [hx], ih⟩
  | item _ takes _ _ ih => exact List.forall_mem_append.2 ⟨takes.token, ih⟩

/-- Reading fails at an item, or where one should follow a sign. -/
theorem error_of_readFrom {negated : Bool} {p : Progress} {xs : List Lexeme} {e : Failure Error}
    (h : readFrom now length negated p xs = .error e) :
    (∃ place : Option Lexeme, (∀ x ∈ place, x ∈ xs) ∧
      (failAt length .keyAfterNegationExpected place : Result Progress) = .error e) ∨
    ∃ sort x ys, x :: ys ⊆ xs ∧ readItem now length sort x ys = .error e := by
  induction negated, p, xs using readFrom.induct now length with
  | case1 p => exact .inl ⟨none, by simp, by simpa [readFrom_nil] using h⟩
  | case2 negated p hn => simp [readFrom_nil, hn] at h
  | case3 p x xs hx => exact .inl ⟨some x, by simp, by simpa [readFrom_cons_of_negate hx] using h⟩
  | case4 negated p x xs hx hn ih =>
    rw [readFrom_cons_of_negate hx, if_neg hn] at h
    rcases ih h with ⟨place, mem, failed⟩ | ⟨sort, y, ys, sub, failed⟩
    · exact .inl ⟨place, fun y hy => List.mem_cons_of_mem x (mem y hy), failed⟩
    · exact .inr ⟨sort, y, ys, List.subset_cons_of_subset x sub, failed⟩
  | case5 negated p x xs hx e' he =>
    rw [readFrom_cons hx, he] at h
    obtain rfl : e' = e := Except.error.inj h
    exact .inr ⟨p.sort, x, xs, List.Subset.refl _, he⟩
  | case6 negated p x xs hx item rest hi ih =>
    rw [readFrom_cons hx, hi] at h
    obtain ⟨taken, rfl, -⟩ := exists_takes_of_readItem hi
    have behind : rest ⊆ x :: (taken ++ rest) := fun y mem => by simp [mem]
    rcases ih h with ⟨place, mem, failed⟩ | ⟨sort, y, ys, sub, failed⟩
    · exact .inl ⟨place, fun y hy => behind (mem y hy), failed⟩
    · exact .inr ⟨sort, y, ys, List.Subset.trans sub behind, failed⟩

end FeedReader.Query
