import FeedReader.Config.KeyBindings
import FeedReader.Proofs.Result
import Mathlib.Data.List.Nodup

/-!
# Key bindings laid over others

The user's key bindings are read one by one, laid over the built-in ones, and those without commands
are taken out. What a key executes then depends on nothing but the value that the user has given it.

* `find?_key_eq_some_iff`: finding an entry by its key;
* `mem_put`, `mem_overlay`, `find?_merge`: bindings laid over others;
* `Lists`, `Gives`, `Meets`: the command lines of a value, the commands that it gives, and the mishap
  that it meets, with `readEntry_eq_ok_iff` and `readEntry_eq_mishap_iff`;
* `read_of_plain`, `read_of_meets`: what the values of a map come to;
* `Executes`: what a key executes by the value that the user has given it, and
  `find?_merge_read`.
-/

namespace FeedReader

/-- Of entries with different keys, the one that is found by a key is the one that has it. -/
theorem find?_key_eq_some_iff {α : Type} {l : List (Text × α)} (keys : (l.map (·.1)).Nodup)
    {k : Text} {a : α} : (l.find? (·.1 = k)).map (·.2) = some a ↔ (k, a) ∈ l := by
  induction l with
  | nil => simp
  | cons e l ih =>
    obtain ⟨new, keys⟩ := List.nodup_cons.1 keys
    by_cases here : e.1 = k
    · have later : (k, a) ∉ l := fun mem => new (List.mem_map.2 ⟨_, mem, here.symm⟩)
      rw [List.find?_cons_of_pos (by simpa using here), List.mem_cons, or_iff_left later]
      subst here
      simp [Prod.ext_iff, eq_comm]
    · have other : (k, a) ≠ e := by
        rintro rfl
        exact here rfl
      rw [List.find?_cons_of_neg (by simpa using here), ih keys, List.mem_cons,
        or_iff_right other]

namespace KeyBindings

variable {now : Moment} {b own : KeyBindings} {e x : Text × CommandSequence}

theorem find?_eq_some_iff (keys : (b.map (·.1)).Nodup) {k : Text} {s : CommandSequence} :
    b.find? k = some s ↔ (k, s) ∈ b :=
  find?_key_eq_some_iff keys

/-! ### Bindings laid over others -/

theorem any_key_iff : b.any (·.1 = e.1) = true ↔ e.1 ∈ b.map (·.1) := by
  simp

theorem mem_put : x ∈ b.put e ↔ x = e ∨ x ∈ b ∧ x.1 ≠ e.1 := by
  unfold put
  split
  · next old =>
    obtain ⟨d, hd, same⟩ := List.mem_map.1 (any_key_iff.1 old)
    rw [List.mem_map]
    constructor
    · rintro ⟨a, ha, rfl⟩
      split
      · exact .inl rfl
      · next other => exact .inr ⟨ha, other⟩
    · rintro (rfl | ⟨hx, other⟩)
      · exact ⟨d, hd, if_pos same⟩
      · exact ⟨x, hx, if_neg other⟩
  · next new =>
    have other : x ∈ b → x.1 ≠ e.1 := fun hx same =>
      new (any_key_iff.2 (List.mem_map.2 ⟨x, hx, same⟩))
    rw [List.mem_append, List.mem_singleton, or_comm, and_iff_left_of_imp other]

theorem nodup_put (keys : (b.map (·.1)).Nodup) (e : Text × CommandSequence) :
    ((b.put e).map (·.1)).Nodup := by
  unfold put
  split
  · -- the keys are those that were there, in their order
    have keep : (b.map fun d => if d.1 = e.1 then e else d).map (·.1) = b.map (·.1) := by
      rw [List.map_map]
      refine List.map_congr_left fun d _ => ?_
      by_cases here : d.1 = e.1 <;> simp [here]
    rwa [keep]
  · next new =>
    rw [List.map_append, List.map_singleton, ← List.concat_eq_append]
    exact keys.concat fun mem => new (any_key_iff.2 mem)

theorem nodup_overlay (keys : (b.map (·.1)).Nodup) (own : KeyBindings) :
    ((b.overlay own).map (·.1)).Nodup := by
  induction own generalizing b with
  | nil => exact keys
  | cons e own ih => exact ih (nodup_put keys e)

theorem mem_overlay (keys : (own.map (·.1)).Nodup) :
    x ∈ b.overlay own ↔ x ∈ own ∨ x ∈ b ∧ x.1 ∉ own.map (·.1) := by
  induction own generalizing b with
  | nil => simp [overlay]
  | cons e own ih =>
    obtain ⟨new, keys⟩ := List.nodup_cons.1 keys
    have step : b.overlay (e :: own) = (b.put e).overlay own := rfl
    rw [step, ih keys, mem_put, List.mem_cons, List.map_cons, List.mem_cons]
    constructor
    · rintro (mine | ⟨rfl | ⟨old, other⟩, free⟩)
      · exact .inl (.inr mine)
      · exact .inl (.inl rfl)
      · exact .inr ⟨old, not_or.2 ⟨other, free⟩⟩
    · rintro ((rfl | mine) | ⟨old, free⟩)
      · exact .inr ⟨.inl rfl, new⟩
      · exact .inl mine
      · obtain ⟨other, free⟩ := not_or.1 free
        exact .inr ⟨.inr ⟨old, other⟩, free⟩

theorem nodup_builtin : (builtin.map (·.1)).Nodup := by decide

theorem commands_ne_nil_of_mem_builtin : ∀ e ∈ builtin, e.2.commands ≠ [] := by decide

/-- What a key executes by its own commands, if there are some, over what it executes otherwise. No
commands at all take it out of use. -/
def chosen (otherwise : Option CommandSequence) : Option CommandSequence → Option CommandSequence
  | none => otherwise
  | some s => if s.commands = [] then none else some s

/-- Each key is merged by itself. -/
theorem find?_merge (keys : (own.map (·.1)).Nodup) (k : Text) :
    (merge own).find? k = chosen (builtin.find? k) (own.find? k) := by
  have merged : ((merge own).map (·.1)).Nodup :=
    (List.filter_sublist.map _).nodup (nodup_overlay nodup_builtin own)
  ext s
  have used : (k, s) ∈ merge own ↔ (k, s) ∈ builtin.overlay own ∧ s.commands ≠ [] := by
    rw [merge, inUse, List.mem_filter]
    simp
  rw [find?_eq_some_iff merged, used, mem_overlay keys]
  cases found : own.find? k with
  | none =>
    have free : k ∉ own.map (·.1) := by
      intro mem
      obtain ⟨⟨_, s⟩, hs, rfl⟩ := List.mem_map.1 mem
      simp [(find?_eq_some_iff keys).2 hs] at found
    have notOwn : (k, s) ∉ own := fun mem => free (List.mem_map.2 ⟨_, mem, rfl⟩)
    rw [chosen, find?_eq_some_iff nodup_builtin, or_iff_right notOwn, and_iff_left free]
    exact and_iff_left_of_imp (commands_ne_nil_of_mem_builtin _)
  | some t =>
    have mine := (find?_eq_some_iff keys).1 found
    have taken : k ∈ own.map (·.1) := List.mem_map.2 ⟨_, mine, rfl⟩
    have same : (k, s) ∈ own ↔ t = s := by
      rw [← find?_eq_some_iff keys, found, Option.some.injEq]
    rw [same, or_iff_left fun builtin => builtin.2 taken, chosen]
    split <;> grind

/-! ### The commands of a value -/

/-- The command lines of a value: a text is one, and a list of texts is several. -/
inductive Lists : Config.Value → List Text → Prop
  | text (line : Text) : Lists (.text line) [line]
  | list (lines : List Text) : Lists (.list (lines.map .text)) lines

/-- Whether a value gives commands, one for each of its command lines. -/
def Gives (now : Moment) (v : Config.Value) (s : CommandSequence) : Prop :=
  ∃ lines, Lists v lines ∧
    List.Forall₂ (fun line c => Command.readBounded .eager now line = .ok c) lines s.commands

/-- Whether the first command line of a value that is no command meets a mishap. -/
def Meets (now : Moment) (v : Config.Value) (m : Mishap) : Prop :=
  ∃ before line after, Lists v (before ++ line :: after) ∧
    (∀ l ∈ before, ∃ c, Command.readBounded .eager now l = .ok c) ∧
    Command.readBounded .eager now line = .error (.mishap m)

theorem texts?_eq_some_iff {v : Config.Value} {lines : List Text} :
    v.texts? = some lines ↔ v = .list (lines.map .text) := by
  have text (w : Config.Value) (t : Text) : w.text? = some t ↔ w = .text t := by
    cases w <;> simp [Config.Value.text?]
  cases v with
  | list vs =>
    rw [Config.Value.texts?, Config.Value.list.injEq]
    induction vs generalizing lines with
    | nil => cases lines <;> simp
    | cons w vs ih =>
      cases lines <;>
        simp [List.mapM_cons, Option.bind_eq_some_iff, text, ih]
  | _ => simp [Config.Value.texts?]

theorem commandLines?_eq_some_iff {v : Config.Value} {lines : List Text} :
    commandLines? v = some lines ↔ Lists v lines := by
  unfold commandLines?
  split
  · constructor
    · rintro h
      obtain rfl := Option.some.inj h
      exact .text _
    · rintro ⟨⟩
      rfl
  · next other =>
    rw [texts?_eq_some_iff]
    constructor
    · rintro rfl
      exact .list lines
    · rintro (_ | _)
      · exact absurd rfl (other _)
      · rfl

/-- A value gives commands exactly if it is read as them. -/
theorem readEntry_eq_ok_iff {key : Text} {v : Config.Value} {s : CommandSequence} :
    readEntry now key v = .ok s ↔ Gives now v s := by
  unfold readEntry
  cases found : commandLines? v with
  | none =>
    have none : ∀ lines, ¬ Lists v lines := by simp [← commandLines?_eq_some_iff, found]
    exact iff_of_false nofun fun ⟨lines, listed, _⟩ => none lines listed
  | some lines =>
    have only (other : List Text) : Lists v other ↔ lines = other := by
      rw [← commandLines?_eq_some_iff, found, Option.some.injEq]
    simp only [Gives, only, exists_eq_left', mapError_eq_ok_iff]
    rw [CommandSequence.read, map_eq_ok_iff, ← mapM_eq_ok_iff]
    constructor
    · rintro ⟨commands, read, rfl⟩
      exact read
    · exact fun read => ⟨_, read, rfl⟩

theorem readEntry_eq_mishap_iff {key : Text} {v : Config.Value} {m : Mishap} :
    readEntry now key v = .error (.mishap m) ↔ Meets now v m := by
  unfold readEntry
  cases found : commandLines? v with
  | none =>
    have none : ∀ lines, ¬ Lists v lines := by simp [← commandLines?_eq_some_iff, found]
    exact iff_of_false nofun fun ⟨_, _, _, listed, _⟩ => none _ listed
  | some lines =>
    have only (other : List Text) : Lists v other ↔ lines = other := by
      rw [← commandLines?_eq_some_iff, found, Option.some.injEq]
    simp only [Meets, only]
    rw [mapError_map_eq_mishap_iff, CommandSequence.read, map_eq_error_iff, mapM_eq_error_iff]

/-! ### The values of a map -/

variable {values : List (Text × Config.Value)}

theorem read_cons_of_gives {key : Text} {v : Config.Value} {s : CommandSequence}
    (h : Gives now v s) : (read now ((key, v) :: values)).1 =
      (read now values).1.map ((key, s) :: ·) := by
  rw [read, readEntry_eq_ok_iff.2 h]

theorem read_cons_of_meets {key : Text} {v : Config.Value} {m : Mishap} (h : Meets now v m) :
    (read now ((key, v) :: values)).1 = .error m := by
  rw [read, readEntry_eq_mishap_iff.2 h]

theorem read_cons_of_dropped {key : Text} {v : Config.Value} (none : ∀ s, ¬ Gives now v s)
    (plain : ∀ m, ¬ Meets now v m) :
    (read now ((key, v) :: values)).1 = (read now values).1 := by
  rw [read]
  split
  · next m met => exact absurd (readEntry_eq_mishap_iff.1 met) (plain m)
  · rfl
  · next s given => exact absurd (readEntry_eq_ok_iff.1 given) (none s)

/-- Where no value meets a mishap, those that give commands are kept, in their order. -/
theorem read_of_plain (plain : ∀ e ∈ values, ∀ m, ¬ Meets now e.2 m) :
    ∃ own, (read now values).1 = .ok own ∧ (own.map (·.1)).Sublist (values.map (·.1)) ∧
      ∀ k s, (k, s) ∈ own ↔ ∃ v, (k, v) ∈ values ∧ Gives now v s := by
  induction values with
  | nil => exact ⟨[], rfl, List.Sublist.slnil, by simp⟩
  | cons e values ih =>
    obtain ⟨key, v⟩ := e
    obtain ⟨here, plain⟩ := List.forall_mem_cons.1 plain
    obtain ⟨own, read, keys, mem⟩ := ih plain
    by_cases given : ∃ s, Gives now v s
    · obtain ⟨s, hs⟩ := given
      refine ⟨(key, s) :: own, by rw [read_cons_of_gives hs, read]; rfl, keys.cons_cons key, ?_⟩
      have given : readEntry now key v = .ok s := readEntry_eq_ok_iff.2 hs
      have one (t : CommandSequence) : Gives now v t ↔ s = t := by
        rw [← readEntry_eq_ok_iff, given, Except.ok.injEq]
      intro k t
      simp only [List.mem_cons, Prod.mk.injEq, mem]
      grind
    · have dropped : ∀ s, ¬ Gives now v s := not_exists.1 given
      refine ⟨own, by rw [read_cons_of_dropped dropped here, read], keys.cons key, ?_⟩
      intro k t
      simp only [List.mem_cons, Prod.mk.injEq, mem]
      grind

/-- The first mishap that a value meets is all that a map comes to. -/
theorem read_of_meets {before after : List (Text × Config.Value)} {e : Text × Config.Value}
    {m : Mishap} (plain : ∀ d ∈ before, ∀ m, ¬ Meets now d.2 m) (met : Meets now e.2 m) :
    (read now (before ++ e :: after)).1 = .error m := by
  induction before with
  | nil => exact read_cons_of_meets met
  | cons d before ih =>
    obtain ⟨here, plain⟩ := List.forall_mem_cons.1 plain
    rw [List.cons_append]
    by_cases given : ∃ s, Gives now d.2 s
    · obtain ⟨s, hs⟩ := given
      rw [read_cons_of_gives hs, ih plain]
      rfl
    · rw [read_cons_of_dropped (not_exists.1 given) here, ih plain]

/-! ### What keys execute -/

/-- What a key executes by the value that the user has given it, over what it executes otherwise:
the commands of the value, or nothing if it is a list of none; a value without commands does not
count. -/
inductive Executes (now : Moment) (given : Option Config.Value)
    (otherwise : Option CommandSequence) : Option CommandSequence → Prop
  | own {v : Config.Value} {s : CommandSequence} : given = some v → Gives now v s →
    s.commands ≠ [] → Executes now given otherwise (some s)
  | unbound : given = some (.list []) → Executes now given otherwise none
  | kept : (∀ v, given = some v → ∀ s, ¬ Gives now v s) → Executes now given otherwise otherwise

/-- Only the empty list gives no commands at all. -/
theorem gives_nil_iff {v : Config.Value} : Gives now v ⟨[]⟩ ↔ v = .list [] := by
  constructor
  · rintro ⟨lines, listed, read⟩
    obtain rfl := List.forall₂_nil_right_iff.1 read
    generalize none : ([] : List Text) = lines at listed
    cases listed with
    | text line => cases none
    | list lines =>
      subst none
      rfl
  · rintro rfl
    exact ⟨[], .list [], .nil⟩

theorem executes_iff {given : Option Config.Value} {otherwise found s : Option CommandSequence}
    (h : ∀ t, found = some t ↔ ∃ v, given = some v ∧ Gives now v t) :
    Executes now given otherwise s ↔ chosen otherwise found = s := by
  have empty : given = some (.list []) → found = some ⟨[]⟩ := fun same =>
    (h ⟨[]⟩).2 ⟨_, same, gives_nil_iff.2 rfl⟩
  constructor
  · rintro (⟨same, gives, some⟩ | same | none)
    · rw [(h _).2 ⟨_, same, gives⟩, chosen, if_neg some]
    · rw [empty same, chosen, if_pos rfl]
    · cases found with
      | none => rfl
      | some t =>
        obtain ⟨v, same, gives⟩ := (h t).1 rfl
        exact absurd gives (none v same t)
  · rintro rfl
    cases found with
    | none => exact .kept fun v same t gives => nomatch (h t).2 ⟨v, same, gives⟩
    | some t =>
      obtain ⟨v, same, gives⟩ := (h t).1 rfl
      rw [chosen]
      split
      · next nothing =>
        obtain rfl : t = ⟨[]⟩ := congrArg CommandSequence.mk nothing
        exact .unbound (same.trans (congrArg _ (gives_nil_iff.1 gives)))
      · next some => exact .own same gives some

theorem find?_merge_read {values : List (Text × Config.Value)}
    (keys : (values.map (·.1)).Nodup) (plain : ∀ e ∈ values, ∀ m, ¬ Meets now e.2 m) :
    ∃ own, (read now values).1 = .ok own ∧ ∀ k s, own.merge.find? k = s ↔
      Executes now (Config.find? values k) (builtin.find? k) s := by
  obtain ⟨own, read, sub, mem⟩ := read_of_plain plain
  refine ⟨own, read, fun k s => ?_⟩
  have ownKeys := sub.nodup keys
  rw [find?_merge ownKeys]
  refine (executes_iff fun t => ?_).symm
  rw [find?_eq_some_iff ownKeys, mem]
  exact exists_congr fun v => and_congr_left fun _ => (find?_key_eq_some_iff keys).symm

end KeyBindings

end FeedReader
