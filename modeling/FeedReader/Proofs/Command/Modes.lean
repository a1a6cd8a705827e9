import FeedReader.Proofs.Command.Reading

/-!
# Eager and lenient readings

An eager reading and a lenient one of the same line differ in one point: where the lenient one gives
a command and leaves some text over, the eager one may be an error about that text.

* `Result.Exhaustive`: results that are no such error;
* `Result.Tightens`: what an eager result may be, given the lenient one;
* `exhaustive_readKeyword`, `exhaustive_readScope`, …: the readers that do not depend on the mode;
* `tightens_readArguments`: the readers of arguments, one for each shape;
* `tightens_read`, `read_eager_of_lenient`.
-/

namespace FeedReader.Command

variable {α β : Type} {now : Moment} {t rest : Text}

/-! ### Results in both modes -/

/-- Whether a result is no error about text that is left over. -/
def Result.Exhaustive (r : Result α) : Prop := ∀ rest, r ≠ .error (.own (.nothingExpected rest))

/-- Whether an eager reading may give a result where a lenient one gives `lenient`: the same, which
is no error about text that is left over, or such an error where the lenient one gives a value. -/
inductive Result.Tightens (lenient : Result α) : Result α → Prop
  | same (exhaustive : lenient.Exhaustive) : Tightens lenient lenient
  | leftOver {a : α} (value : lenient = .ok a) (rest : Text) :
    Tightens lenient (.error (.own (.nothingExpected rest)))

namespace Result

theorem exhaustive_ok (a : α) : Exhaustive (.ok a) := nofun

theorem exhaustive_mishap (m : Mishap) : Exhaustive (.error (.mishap m) : Result α) := nofun

theorem exhaustive_fail {e : Error} (h : ∀ rest, e ≠ .nothingExpected rest) :
    Exhaustive (fail e : Result α) := by
  intro rest same
  exact h rest (Failure.own.inj (Except.error.inj same))

theorem Exhaustive.bind {r : Result α} {f : α → Result β} (h : r.Exhaustive)
    (next : ∀ a, r = .ok a → Exhaustive (f a)) : Exhaustive (r >>= f) := by
  intro rest failed
  rcases bind_eq_error_iff.1 failed with failed | ⟨a, value, failed⟩
  · exact h rest failed
  · exact next a value rest failed

theorem Exhaustive.map {r : Result α} (h : r.Exhaustive) (f : α → β) :
    Exhaustive (Except.map f r) :=
  fun rest failed => h rest (map_eq_error_iff.1 failed)

namespace Tightens

variable {lenient eager : Result α}

theorem map (h : Tightens lenient eager) (f : α → β) :
    Tightens (Except.map f lenient) (Except.map f eager) := by
  cases h with
  | same exhaustive => exact .same (exhaustive.map f)
  | @leftOver a value rest => exact .leftOver (a := f a) (by rw [value]; rfl) rest

/-- What is read in the same way in both modes may stand before what is not. -/
theorem bind {r : Result α} {f g : α → Result β} (h : r.Exhaustive)
    (next : ∀ a, r = .ok a → Tightens (f a) (g a)) : Tightens (r >>= f) (r >>= g) := by
  cases r with
  | error e => exact .same (h.bind nofun)
  | ok a => exact next a rfl

/-- The one place where the modes differ. -/
theorem ending (rest : Text) (a : α) :
    Tightens (Command.ending .lenient rest a) (Command.ending .eager rest a) := by
  have value : Command.ending .lenient rest a = .ok a := by simp [Command.ending]
  by_cases h : rest = []
  · rw [h, ending_nil, ending_nil]
    exact .same (exhaustive_ok a)
  · rw [Command.ending.eq_def .eager, if_pos ⟨rfl, h⟩]
    exact .leftOver value rest

end Tightens

end Result

open Result

/-! ### Single arguments -/

theorem exhaustive_readKeyword {ofKeyword? : Text → Option α} {expected : Option Text → Error}
    (h : ∀ word rest, expected word ≠ .nothingExpected rest) (t : Text) :
    (readKeyword ofKeyword? expected t).Exhaustive := by
  unfold readKeyword
  split
  · exact exhaustive_fail (h none)
  · next word rest _ =>
    split
    · exact exhaustive_fail (h (some word))
    · exact exhaustive_ok _

theorem exhaustive_readPanel (t : Text) : (readPanel t).Exhaustive :=
  exhaustive_readKeyword (by simp) t

theorem exhaustive_readWord {missing : Error} (h : ∀ rest, missing ≠ .nothingExpected rest)
    (t : Text) : (readWord missing t).Exhaustive := by
  unfold readWord
  split
  · exact exhaustive_fail h
  · exact exhaustive_ok _

theorem exhaustive_readColor (word : Text) : (readColor word).Exhaustive := by
  unfold readColor
  split
  · exact exhaustive_ok _
  · exact exhaustive_fail (by simp)
  · exact exhaustive_mishap _

theorem exhaustive_readUrl (word : Text) : (readUrl word).Exhaustive := by
  unfold readUrl
  split
  · exact exhaustive_ok _
  · exact exhaustive_fail (by simp)
  · exact exhaustive_mishap _

/-- An error of the query language is never one about text that is left over. -/
theorem exhaustive_mapError_query (r : Query.Result α) :
    Exhaustive (r.mapError (Failure.map Error.queryExpected)) := by
  intro rest failed
  obtain ⟨e, -, same⟩ := mapError_eq_error_iff.1 failed
  cases e <;> simp [Failure.map] at same

theorem exhaustive_readQuery (t : Text) : (readQuery now t).Exhaustive :=
  exhaustive_mapError_query _

theorem exhaustive_readScope (t : Text) : (readScope now t).Exhaustive := by
  unfold readScope
  split
  · exact exhaustive_ok _
  · exact exhaustive_mapError_query _

theorem tightens_readArticleScope (t : Text) :
    Tightens (readArticleScope .lenient t) (readArticleScope .eager t) :=
  .bind (exhaustive_readKeyword (by simp) t) fun (scope, tail) _ => .ending tail scope

/-! ### Arguments of each shape -/

theorem exhaustive_readSetRead (rest : Text) : (readSetRead now rest).Exhaustive := by
  unfold readSetRead
  split
  · exact (exhaustive_readScope _).map _
  · exact (exhaustive_readScope _).map _

theorem tightens_readAddTag (rest : Text) :
    Tightens (readAddTag .lenient rest) (readAddTag .eager rest) := by
  refine .bind (exhaustive_readWord (by simp) rest) fun (tag, tail) _ => ?_
  dsimp only
  split
  · exact .same (exhaustive_ok _)
  · next word tail' _ =>
    exact .bind (exhaustive_readColor word) fun color _ => .ending tail' _

theorem tightens_readShow (rest : Text) :
    Tightens (readShow .lenient rest) (readShow .eager rest) := by
  unfold readShow
  split
  · exact .same (exhaustive_fail (by simp))
  · split
    · exact (tightens_readArticleScope _).map _
    · exact (tightens_readArticleScope _).map _

theorem tightens_readSearch (rest : Text) :
    Tightens (readSearch .lenient rest) (readSearch .eager rest) := by
  unfold readSearch
  split
  · exact .same (exhaustive_fail (by simp))
  · split
    · exact .same (exhaustive_fail (by simp))
    · exact .ending _ _

theorem exhaustive_readSort (rest : Text) : (readSort rest).Exhaustive := by
  unfold readSort
  split
  · exact exhaustive_fail (by simp)
  · split
    · exact exhaustive_fail (by simp)
    · exact exhaustive_ok _

/-! ### Command lines -/

/-- Reading arguments eagerly tightens reading them leniently, if that holds of the command lines in
them. -/
theorem tightens_readArguments {kind : Kind} {s : Shape} (shape : kind.shape = s)
    (inner : ∀ tail, tail.length ≤ rest.length →
      Tightens (read .lenient now tail) (read .eager now tail)) :
    Tightens (readArguments .lenient now kind rest s shape)
      (readArguments .eager now kind rest s shape) := by
  -- one case for each shape of arguments
  cases s <;> rw [readArguments, readArguments]
  case nothing => exact .ending rest _
  case panel =>
    refine .bind (exhaustive_readPanel rest) ?_
    rintro ⟨panel, tail⟩ -
    exact .ending tail _
  case panelCommand =>
    split
    · next e failed =>
      refine .same fun left same => exhaustive_readPanel rest left ?_
      obtain rfl := Except.error.inj same
      exact failed
    · next panel tail found =>
      split
      · exact .same (exhaustive_fail (by simp))
      · exact (inner tail (length_of_readKeyword found).le).map _
  case command =>
    split
    · exact .same (exhaustive_fail (by simp))
    · exact (inner rest le_rfl).map _
  case targetScope => exact .same (exhaustive_readSetRead rest)
  case scope => exact .same ((exhaustive_readScope rest).map _)
  case tagScope =>
    refine .same ((exhaustive_readWord (by simp) rest).bind ?_)
    rintro ⟨tag, tail⟩ -
    exact (exhaustive_readScope tail).map _
  case urlName =>
    refine .same ((exhaustive_readWord (by simp) rest).bind ?_)
    rintro ⟨word, tail⟩ -
    exact (exhaustive_readUrl word).map _
  case url =>
    refine .bind (exhaustive_readWord (by simp) rest) ?_
    rintro ⟨word, tail⟩ -
    exact .bind (exhaustive_readUrl word) fun url _ => .ending tail _
  case position =>
    refine .bind (exhaustive_readKeyword (by simp) rest) ?_
    rintro ⟨position, tail⟩ -
    exact .ending tail _
  case text =>
    split
    · exact .same (exhaustive_fail (by simp))
    · exact .same (exhaustive_ok _)
  case color =>
    refine .bind (exhaustive_readWord (by simp) rest) ?_
    rintro ⟨word, tail⟩ -
    exact .bind (exhaustive_readColor word) fun color _ => .ending tail _
  case tagColor => exact tightens_readAddTag rest
  case articleScope => exact (tightens_readArticleScope rest).map _
  case targetArticleScope => exact tightens_readShow rest
  case query =>
    split
    · exact .same (exhaustive_fail (by simp))
    · exact .same ((exhaustive_readQuery rest).map _)
  case searchTerm => exact tightens_readSearch rest
  case sortOrder => exact .same (exhaustive_readSort rest)
  case shareTarget =>
    refine .bind (exhaustive_readWord (by simp) rest) ?_
    rintro ⟨target, tail⟩ -
    exact .ending tail _
  case path =>
    split
    · exact .same (exhaustive_fail (by simp))
    · exact .same (exhaustive_ok _)
  case confirmation =>
    refine .bind (exhaustive_readWord (by simp) rest) ?_
    rintro ⟨word, tail⟩ -
    exact .ending tail _
  case optionalText => exact .same (exhaustive_ok _)

/-- Reading a command line eagerly tightens reading it leniently. The induction is on the length of
the line, since a command stands in the rest of the line of the command around it. -/
theorem tightens_read (now : Moment) (t : Text) :
    Tightens (read .lenient now t) (read .eager now t) := by
  induction hn : t.length using Nat.strong_induction_on generalizing t with
  | _ n ih =>
    rw [read, read]
    split
    · exact .same (exhaustive_fail (by simp))
    · next word rest found =>
      split
      · exact .same (exhaustive_fail (by simp))
      · next kind keyword =>
        have shorter := Text.length_of_splitWord found
        exact tightens_readArguments rfl fun tail bound => ih tail.length (by omega) tail rfl

/-- A command that is read eagerly is read leniently too. An error of a lenient reading is the error
of an eager one, and it is not about text that is left over. A command that is read leniently is
read eagerly too, unless text that is left over is the error. -/
theorem read_eager_of_lenient (now : Moment) (t : Text) :
    (∀ c, read .eager now t = .ok c → read .lenient now t = .ok c) ∧
    (∀ e, read .lenient now t = .error e → read .eager now t = .error e) ∧
    (∀ c, read .lenient now t = .ok c → read .eager now t = .ok c ∨
      ∃ rest, read .eager now t = .error (.own (.nothingExpected rest))) ∧
    ∀ rest, read .lenient now t ≠ .error (.own (.nothingExpected rest)) := by
  have tightens := tightens_read now t
  generalize read .lenient now t = lenient at tightens ⊢
  generalize read .eager now t = eager at tightens ⊢
  cases tightens with
  | same exhaustive => exact ⟨fun _ h => h, fun _ h => h, fun _ h => .inl h, exhaustive⟩
  | leftOver value rest =>
    subst value
    exact ⟨nofun, nofun, fun _ _ => .inr ⟨rest, rfl⟩, exhaustive_ok _⟩

/-- A command in a panel with a word behind its last argument. -/
theorem read_eager_of_lenient_within :
    read .lenient (.ofUtc ⟨0, by decide⟩) "confirm in articles show unread now" =
        .ok (confirm (within .articles (showArticles .current .unread))) ∧
      (read .eager (.ofUtc ⟨0, by decide⟩) "confirm in articles show unread now" =
          .ok (confirm (within .articles (showArticles .current .unread))) ∨
        ∃ rest, read .eager (.ofUtc ⟨0, by decide⟩) "confirm in articles show unread now" =
          .error (.own (.nothingExpected rest))) := by
  have found : read .lenient (.ofUtc ⟨0, by decide⟩) "confirm in articles show unread now" =
      .ok (confirm (within .articles (showArticles .current .unread))) := by decide +kernel
  exact ⟨found, (read_eager_of_lenient _ _).2.2.1 _ found⟩

end FeedReader.Command
