import FeedReader.Config.Reader
import FeedReader.Proofs.Command.Failures
import FeedReader.Proofs.Config.KeyBindings

/-!
# The key bindings of a configuration

The key bindings and the other settings of a configuration file have nothing to do with each other,
unless a command line of a binding meets a mishap: then no configuration is read at all.

* `others`: the settings without the key bindings;
* `readPlain_others`, `readLists_of_others`: these are read as if they stood alone;
* `ofEntries_of_others`: what a configuration comes to, by what its key bindings come to;
* `ofEntries_keyBindings`.
-/

namespace FeedReader.Config

variable {now : Moment} {home : Path} {entries : Entries} {c d : Config}

/-! ### The other settings -/

/-- The settings of a file without the key bindings. -/
def others (entries : Entries) : Entries := entries.filter (·.1 ≠ Key.keyBindings.name)

theorem find?_others {name : Text} (other : name ≠ Key.keyBindings.name) :
    find? (others entries) name = find? entries name := by
  unfold find? others
  rw [List.find?_filter]
  congr 2
  funext e
  by_cases here : e.1 = name
  · simp [here, other]
  · simp [here]

theorem Key.name_ne {key : Key} (other : key ≠ .keyBindings) :
    key.name ≠ Key.keyBindings.name := by
  intro same
  have found := congrArg Key.ofName? same
  rw [Key.ofName?_name, Key.ofName?_name] at found
  exact other (Option.some.inj found)

section Settings

variable {α : Type} {key : Key} (other : key ≠ .keyBindings) (default : α) (read : Value → Result α)
include other

theorem readOr_others :
    readOr (others entries) key default read = readOr entries key default read := by
  rw [readOr, find?_others (Key.name_ne other), readOr]

theorem readGivenOr_others :
    readGivenOr (others entries) key default read = readGivenOr entries key default read := by
  rw [readGivenOr, given?, find?_others (Key.name_ne other), readGivenOr, given?]

end Settings

theorem unknownNames_others : unknownNames (others entries) = unknownNames entries := by
  unfold unknownNames others
  rw [List.filter_map, List.filter_map, List.filter_filter]
  congr 2
  refine List.filter_congr fun e _ => ?_
  by_cases here : e.1 = Key.keyBindings.name
  · simp [here]
  · simp [here]

theorem readPlain_others : readPlain now home (others entries) = readPlain now home entries := by
  unfold readPlain
  simp only [unknownNames_others, readOr_others, readGivenOr_others, ne_eq, reduceCtorEq,
    not_false_eq_true]

theorem readKeyBindings_others :
    readKeyBindings now (others entries) = (.ok KeyBindings.builtin, []) := by
  have none : find? (others entries) Key.keyBindings.name = none := by
    rw [find?, Option.map_eq_none_iff, List.find?_eq_none]
    intro e he
    simpa using (List.mem_filter.1 he).2
  rw [readKeyBindings, none]

/-- The settings after the key bindings are read without regard to these. -/
theorem readLists_of_others (h : readLists now (others entries) c = .ok d) (b : KeyBindings) :
    readLists now entries { c with keyBindings := b } = .ok { d with keyBindings := b } := by
  unfold readLists at h ⊢
  simp only [readOr_others, ne_eq, reduceCtorEq, not_false_eq_true] at h
  obtain ⟨feedList, hf, h⟩ := bind_eq_ok_iff.1 h
  obtain ⟨shareTargets, hs, h⟩ := bind_eq_ok_iff.1 h
  cases h
  exact bind_eq_ok_iff.2 ⟨feedList, hf, bind_eq_ok_iff.2 ⟨shareTargets, hs, rfl⟩⟩

/-- What a configuration comes to, where the settings other than the key bindings are sound. -/
theorem ofEntries_of_others (h : (ofEntries now home (others entries)).1 = .ok c) :
    (∀ b, (readKeyBindings now entries).1 = .ok b →
      (ofEntries now home entries).1 = .ok { c with keyBindings := b }) ∧
    ∀ e, (readKeyBindings now entries).1 = .error e →
      (ofEntries now home entries).1 = .error e := by
  unfold ofEntries at h ⊢
  rw [readPlain_others, readKeyBindings_others] at h
  cases plain : readPlain now home entries with
  | error e => simp [plain] at h
  | ok base =>
    simp only [plain] at h ⊢
    refine ⟨fun b read => ?_, fun e read => ?_⟩
    · have sound : readLists now (others entries)
          { base with keyBindings := KeyBindings.builtin } = .ok c := h
      rw [read]
      exact readLists_of_others sound b
    · rw [read]
      rfl

theorem readKeyBindings_map {own : List (Text × Value)}
    (given : find? entries Key.keyBindings.name = some (.map own)) :
    (readKeyBindings now entries).1 =
      ((KeyBindings.read now own).1.map KeyBindings.merge).mapError .mishap := by
  rw [readKeyBindings, given]
  rcases read : KeyBindings.read now own with ⟨m | b, warnings⟩
  · simp only [read]
    rfl
  · simp only [read]
    rfl

/-- Without settings all is as it stands. -/
theorem ofEntries_nil : (ofEntries now home []).1 = .ok (standard home) := by
  have none : unknownNames [] = [] := by simp [unknownNames]
  simp only [ofEntries, readPlain, none]
  rfl

/-! ### The configuration -/

section Map

variable {values : List (Text × Value)}

/-- What a file comes to that sets nothing but the key bindings. -/
theorem ofEntries_others_alone :
    (ofEntries now home (others [(Key.keyBindings.name, .map values)])).1 =
      .ok (standard home) := by
  have none : others [(Key.keyBindings.name, .map values)] = [] := by simp [others]
  rw [none, ofEntries_nil]

theorem find?_alone (name : Text) (v : Value) : find? [(name, v)] name = some v := by
  simp [find?]

/-- The first value that meets a mishap takes the configuration with it. -/
theorem ofEntries_of_meets {before after : List (Text × Value)} {e : Text × Value} {m : Mishap}
    (sound : (ofEntries now home (others entries)).1 = .ok c)
    (given : find? entries Key.keyBindings.name = some (.map values))
    (split : values = before ++ e :: after)
    (plain : ∀ d ∈ before, ∀ m, ¬ KeyBindings.Meets now d.2 m)
    (met : KeyBindings.Meets now e.2 m) :
    (ofEntries now home entries).1 = .error (.mishap m) := by
  refine (ofEntries_of_others sound).2 _ ?_
  rw [readKeyBindings_map given, split, KeyBindings.read_of_meets plain met]
  rfl

/-- What the user's key bindings come to in a configuration whose other settings are sound. Unless
one of the values meets a mishap, they are read, and nothing else changes: each key executes the
commands that the user has given it, if it has been given any; nothing, if it has been given the
empty list; and otherwise what it executes without the user's bindings. With a value that meets a
mishap there is no configuration. -/
theorem ofEntries_keyBindings (sound : (ofEntries now home (others entries)).1 = .ok c)
    (given : find? entries Key.keyBindings.name = some (.map values))
    (keys : (values.map (·.1)).Nodup) :
    ((∀ e ∈ values, ∀ m, ¬ KeyBindings.Meets now e.2 m) →
      ∃ b, (ofEntries now home entries).1 = .ok { c with keyBindings := b } ∧
        (∀ k s, b.find? k = s ↔
          KeyBindings.Executes now (find? values k) (KeyBindings.builtin.find? k) s) ∧
        ∀ e ∈ b, e.2.commands ≠ []) ∧
    ∀ before e after m, values = before ++ e :: after →
      (∀ d ∈ before, ∀ m, ¬ KeyBindings.Meets now d.2 m) → KeyBindings.Meets now e.2 m →
        (ofEntries now home entries).1 = .error (.mishap m) := by
  constructor
  · intro plain
    obtain ⟨own, read, executes⟩ := KeyBindings.find?_merge_read keys plain
    have merged : (readKeyBindings now entries).1 = .ok own.merge := by
      rw [readKeyBindings_map given, read]
      rfl
    exact ⟨own.merge, (ofEntries_of_others sound).1 _ merged, executes,
      fun e he => KeyBindings.commands_ne_nil_of_mem_inUse he⟩
  · intro before e after m split plain met
    exact ofEntries_of_meets sound given split plain met

/-- One of three keys is taken out of use, one keeps its commands since one of those given is none,
and one that had none executes two. -/
theorem ofEntries_keyBindings_three :
    let now : Moment := .ofUtc ⟨0, by decide⟩
    let home : Path := ⟨"/", ["home"]⟩
    let values : List (Text × Value) :=
      [("j", .list []), ("k", .list [.text "quit", .text "go"]),
        ("x", .list [.text "down", .text "sync"])]
    (values.map (·.1)).Nodup ∧ (∀ e ∈ values, ∀ m, ¬ KeyBindings.Meets now e.2 m) ∧
      ∃ b, (ofEntries now home [(Key.keyBindings.name, .map values)]).1 =
          .ok { standard home with keyBindings := b } ∧
        b.find? "j" = none ∧ b.find? "k" = some ⟨[.plain .up rfl]⟩ ∧
        b.find? "x" = some ⟨[.plain .down rfl, .plain .sync rfl]⟩ := by
  intro now home values
  have keys : (values.map (·.1)).Nodup := by decide
  have empty : KeyBindings.readEntry now "j" (.list []) = .ok ⟨[]⟩ := by decide +kernel
  have refused : KeyBindings.readEntry now "k" (.list [.text "quit", .text "go"]) =
      .error (.own (.refused "k" (.commandNameExpected "go"))) := by
    decide +kernel
  have read : KeyBindings.readEntry now "x" (.list [.text "down", .text "sync"]) =
      .ok ⟨[.plain .down rfl, .plain .sync rfl]⟩ := by
    decide +kernel
  have plain : ∀ e ∈ values, ∀ m, ¬ KeyBindings.Meets now e.2 m := by
    simp only [values, List.forall_mem_cons]
    refine ⟨fun m met => ?_, fun m met => ?_, fun m met => ?_, List.forall_mem_nil _⟩
    · cases empty.symm.trans (KeyBindings.readEntry_eq_mishap_iff.2 met)
    · cases refused.symm.trans (KeyBindings.readEntry_eq_mishap_iff.2 met)
    · cases read.symm.trans (KeyBindings.readEntry_eq_mishap_iff.2 met)
  obtain ⟨b, loaded, executes, -⟩ :=
    (ofEntries_keyBindings ofEntries_others_alone (find?_alone _ _) keys).1 plain
  refine ⟨keys, plain, b, loaded, (executes _ _).2 (.unbound rfl), (executes _ _).2 ?_,
    (executes _ _).2 (.own rfl (KeyBindings.readEntry_eq_ok_iff.1 read) (by decide))⟩
  have builtin : KeyBindings.builtin.find? "k" = some ⟨[.plain .up rfl]⟩ := by decide
  rw [← builtin]
  refine .kept fun v same s gives => ?_
  obtain rfl := Option.some.inj same
  cases refused.symm.trans (KeyBindings.readEntry_eq_ok_iff.2 gives)

/-- A single value that gives no commands, since an amount of a color is left out in its command
line, is enough to leave the user without a configuration. -/
theorem ofEntries_keyBindings_ne_ok :
    let now : Moment := .ofUtc ⟨0, by decide⟩
    let home : Path := ⟨"/", ["home"]⟩
    let values : List (Text × Value) := [("x", .text "tagadd work rgb(1,,3)")]
    (values.map (·.1)).Nodup ∧ (∀ e ∈ values, ∀ s, ¬ KeyBindings.Gives now e.2 s) ∧
      ∀ c, (ofEntries now home [(Key.keyBindings.name, .map values)]).1 ≠ .ok c := by
  intro now home values
  have bare : Command.IsBare "tagadd work rgb(1,,3)" := by
    have first : Text.splitWord "tagadd work rgb(1,,3)" =
        some (Command.Kind.addTag.keyword, ("work rgb(1,,3)" : Text)) := by decide
    exact Command.isBare_of_splitWord first nofun nofun
  have line : Command.readBounded .eager now "tagadd work rgb(1,,3)" =
      .error (.mishap .amountMissing) := by
    have same : "tagadd work rgb(1,,3)".toList = Command.Kind.addTag.keyword ++
        ' ' :: ("work".toList ++ ' ' :: "rgb(1,,3)".toList) := rfl
    rw [Command.readBounded_of_isBare bare, same]
    exact Command.read_addTag_of_lacksAmount (by decide) (by decide) (by decide +kernel)
  have met : KeyBindings.Meets now (.text "tagadd work rgb(1,,3)") .amountMissing :=
    ⟨[], _, [], .text _, List.forall_mem_nil _, line⟩
  have lost : (ofEntries now home [(Key.keyBindings.name, .map values)]).1 =
      .error (.mishap .amountMissing) :=
    ofEntries_of_meets ofEntries_others_alone (find?_alone _ _) (List.nil_append values).symm
      (List.forall_mem_nil _) met
  refine ⟨by decide, List.forall_mem_singleton.2 fun s gives => ?_, fun c loaded => ?_⟩
  · have given : KeyBindings.readEntry now "x" (.text "tagadd work rgb(1,,3)") = .ok s :=
      KeyBindings.readEntry_eq_ok_iff.2 gives
    cases (KeyBindings.readEntry_eq_mishap_iff.2 met).symm.trans given
  · cases loaded.symm.trans lost

end Map

end FeedReader.Config
