import FeedReader.Completion
import Mathlib.Data.List.Iterate
import Mathlib.GroupTheory.Perm.List

/-!
# Cycling through completions goes around

Candidates of which none occurs twice stand in a ring: going on from one of them leads to its
neighbour, and after the last one to the first one.

* `rotation`: the permutation that takes each candidate to the next one, or to the previous one;
* `step_eq_rotation`, `iterate_step`: steps from a candidate are powers of the rotation;
* `exists_rotation_pow`: each candidate can be reached from each other one, in both directions;
* `Reaches`: where cycling leads to from what has been typed;
* `reaches_of_nodup`: it leads to all candidates if none occurs twice;
* `mem_of_reaches`: it stays among words that no step leads out of;
* `Direction.back`: the way back, which undoes a step;
* `step_around`: as many steps as there are candidates lead past all of them, back to the first one.
-/

namespace FeedReader.Completion

variable {completions : List Text} {typed c : Text} {d : Direction}

/-! ### Steps from a candidate -/

/-- The permutation that takes each entry of a list to the next or to the previous one. -/
def rotation (found : List Text) : Direction → Equiv.Perm Text
  | .forward => found.formPerm
  | .backward => found.formPerm⁻¹

theorem move_lt {n i : Nat} (h : i < n) (d : Direction) : d.move n i < n := by
  cases d with
  | forward => exact Nat.mod_lt _ (by omega)
  | backward => exact Nat.mod_lt _ (by omega)

/-- The place before a place is the one that it follows. -/
theorem move_backward_succ {n i : Nat} (h : i < n) : (Direction.backward.move n i + 1) % n = i := by
  show ((i + n - 1) % n + 1) % n = i
  by_cases first : i = 0
  · have last : (n - 1) % n = n - 1 := Nat.mod_eq_of_lt (by omega)
    subst first
    rw [Nat.zero_add, last, Nat.sub_add_cancel h, Nat.mod_self]
  · have before : (i - 1) % n = i - 1 := Nat.mod_eq_of_lt (by omega)
    rw [show i + n - 1 = i - 1 + n by omega, Nat.add_mod_right, before,
      Nat.sub_add_cancel (by omega : 1 ≤ i), Nat.mod_eq_of_lt h]

/-- The place of an entry in a list without repetitions. -/
theorem idxOf?_getElem {found : List Text} (nodup : found.Nodup) {i : Nat}
    (h : i < found.length) : found.idxOf? found[i] = some i := by
  rw [List.idxOf?_eq_some_iff]
  refine ⟨h, rfl, fun j hj same => ?_⟩
  have place : j = i := nodup.getElem_inj_iff.1 same
  omega

theorem step_getElem (nodup : (candidates completions typed).Nodup) {i : Nat}
    (h : i < (candidates completions typed).length)
    (moved : d.move (candidates completions typed).length i <
      (candidates completions typed).length) :
    step completions typed d (candidates completions typed)[i] =
      (candidates completions typed)[d.move (candidates completions typed).length i] := by
  simp only [step, idxOf?_getElem nodup h, List.getElem?_eq_getElem moved, Option.getD_some]

theorem rotation_getElem {found : List Text} (nodup : found.Nodup) {i : Nat}
    (h : i < found.length) (moved : d.move found.length i < found.length) :
    rotation found d found[i] = found[d.move found.length i] := by
  cases d with
  | forward => exact List.formPerm_apply_getElem found nodup i h
  | backward =>
    rw [rotation, Equiv.Perm.inv_eq_iff_eq, List.formPerm_apply_getElem found nodup]
    congr 1
    exact (move_backward_succ h).symm

/-- A step from a candidate goes to its neighbour in the ring. -/
theorem step_eq_rotation (nodup : (candidates completions typed).Nodup)
    (hc : c ∈ candidates completions typed) :
    step completions typed d c = rotation (candidates completions typed) d c := by
  obtain ⟨i, h, rfl⟩ := List.getElem_of_mem hc
  have moved := move_lt h d
  rw [step_getElem nodup h moved, rotation_getElem nodup h moved]

theorem rotation_mem {found : List Text} (d : Direction) (hc : c ∈ found) :
    rotation found d c ∈ found := by
  cases d with
  | forward => exact List.formPerm_apply_mem_of_mem hc
  | backward =>
    apply List.mem_of_formPerm_apply_mem
    rw [rotation, Equiv.Perm.coe_inv, Equiv.apply_symm_apply]
    exact hc

/-- Steps from a candidate go on in the ring. -/
theorem iterate_step (nodup : (candidates completions typed).Nodup)
    (hc : c ∈ candidates completions typed) (n : Nat) :
    (step completions typed d)^[n] c = (rotation (candidates completions typed) d ^ n) c := by
  induction n generalizing c with
  | zero => rfl
  | succ n ih =>
    rw [Function.iterate_succ_apply, step_eq_rotation nodup hc, ih (rotation_mem d hc), pow_succ,
      Equiv.Perm.mul_apply]

/-- All entries of a list lie on one ring. -/
theorem exists_formPerm_pow {found : List Text} (nodup : found.Nodup) {a b : Text}
    (ha : a ∈ found) (hb : b ∈ found) : ∃ n : Nat, (found.formPerm ^ n) a = b := by
  obtain ⟨i, hi, rfl⟩ := List.getElem_of_mem ha
  obtain ⟨j, hj, rfl⟩ := List.getElem_of_mem hb
  refine ⟨j + found.length - i, ?_⟩
  rw [List.formPerm_pow_apply_getElem found nodup]
  congr 1
  rw [show i + (j + found.length - i) = j + found.length by omega, Nat.add_mod_right,
    Nat.mod_eq_of_lt hj]

/-- Each candidate can be reached from each other one, in both directions. -/
theorem exists_rotation_pow {found : List Text} (nodup : found.Nodup) (d : Direction) {a b : Text}
    (ha : a ∈ found) (hb : b ∈ found) : ∃ n : Nat, (rotation found d ^ n) a = b := by
  cases d with
  | forward => exact exists_formPerm_pow nodup ha hb
  | backward =>
    -- the way back is the way from the other candidate to this one
    obtain ⟨n, there⟩ := exists_formPerm_pow nodup hb ha
    refine ⟨n, ?_⟩
    rw [rotation, inv_pow, Equiv.Perm.inv_eq_iff_eq]
    exact there.symm

/-! ### Where cycling leads to -/

/-- Whether cycling leads from what has been typed to a word. -/
def Reaches (completions : List Text) (typed : Text) (d : Direction) (c : Text) : Prop :=
  ∃ n, (step completions typed d)^[n] typed = c

/-- Any step from a word that is no candidate leads to the first one. -/
theorem step_of_not_mem {first : Text} {others : List Text}
    (found : candidates completions typed = first :: others) (hc : c ∉ first :: others) :
    step completions typed d c = first := by
  have none : (first :: others).idxOf? c = none := List.idxOf?_eq_none_iff.2 hc
  simp only [step, found, none, List.head?_cons, Option.getD_some]

/-- Cycling leads to all candidates if none of them occurs twice. -/
theorem reaches_of_nodup (nodup : (candidates completions typed).Nodup)
    (hc : c ∈ candidates completions typed) (d : Direction) : Reaches completions typed d c := by
  by_cases start : typed ∈ candidates completions typed
  · obtain ⟨n, there⟩ := exists_rotation_pow nodup d start hc
    exact ⟨n, (iterate_step nodup start n).trans there⟩
  · -- the first step leads into the ring
    cases found : candidates completions typed with
    | nil => simp [found] at hc
    | cons first others =>
      have mem : first ∈ candidates completions typed := by simp [found]
      obtain ⟨n, there⟩ := exists_rotation_pow nodup d mem hc
      refine ⟨n + 1, ?_⟩
      rw [Function.iterate_succ_apply, step_of_not_mem found (found ▸ start),
        iterate_step nodup mem]
      exact there

/-- Cycling stays among words that no step leads out of. -/
theorem mem_of_reaches {words : List Text} (start : typed ∈ words)
    (closed : ∀ w ∈ words, step completions typed d w ∈ words)
    (h : Reaches completions typed d c) : c ∈ words := by
  obtain ⟨n, rfl⟩ := h
  induction n with
  | zero => exact start
  | succ n ih =>
    rw [Function.iterate_succ_apply']
    exact closed _ ih

/-! ### Going around -/

/-- The way back. -/
def Direction.back : Direction → Direction
  | forward => backward
  | backward => forward

theorem rotation_back_mul (found : List Text) (d : Direction) :
    rotation found d.back * rotation found d = 1 := by
  cases d with
  | forward => exact inv_mul_cancel _
  | backward => exact mul_inv_cancel _

/-- A step back undoes a step. -/
theorem step_back_step (nodup : (candidates completions typed).Nodup)
    (hc : c ∈ candidates completions typed) (d : Direction) :
    step completions typed d.back (step completions typed d c) = c := by
  rw [step_eq_rotation nodup hc, step_eq_rotation nodup (rotation_mem d hc),
    ← Equiv.Perm.mul_apply, rotation_back_mul, Equiv.Perm.one_apply]

/-- The ring closes after as many steps as it has entries. -/
theorem rotation_pow_length {found : List Text} (nodup : found.Nodup) (d : Direction) :
    rotation found d ^ found.length = 1 := by
  cases d with
  | forward => exact List.formPerm_pow_length_eq_one_of_nodup found nodup
  | backward =>
    rw [rotation, inv_pow, List.formPerm_pow_length_eq_one_of_nodup found nodup, inv_one]

/-- The words that a number of steps from a word lead to, one after the other. -/
def visited (completions : List Text) (typed : Text) (d : Direction) (c : Text) (n : Nat) :
    List Text :=
  List.iterate (step completions typed d) (step completions typed d c) n

/-- As many steps as there are candidates lead past each of them. -/
theorem perm_visited (nodup : (candidates completions typed).Nodup)
    (hc : c ∈ candidates completions typed) (d : Direction) :
    (visited completions typed d c (candidates completions typed).length).Perm
      (candidates completions typed) := by
  have mem := rotation_mem d hc
  have all : candidates completions typed ⊆
      visited completions typed d c (candidates completions typed).length := by
    intro w hw
    obtain ⟨n, there⟩ := exists_rotation_pow nodup d mem hw
    -- going around more than once leads to no other places
    rw [pow_eq_pow_mod n (rotation_pow_length nodup d)] at there
    rw [visited, List.mem_iterate, step_eq_rotation nodup hc]
    refine ⟨_, Nat.mod_lt n (List.length_pos_of_mem hc), ?_⟩
    rw [iterate_step nodup mem, there]
  have le : (visited completions typed d c (candidates completions typed).length).length ≤
      (candidates completions typed).length := by
    rw [visited, List.length_iterate]
  exact ((List.subperm_of_subset nodup all).perm_of_length_le le).symm

/-- From a completion that begins with what has been typed, a step back undoes a step, in both
directions. As many steps as there are such completions lead to each of them once, and to the one
they started from at the end. -/
theorem step_around (nodup : completions.Nodup) (mem : c ∈ completions) (start : typed <+: c)
    (d : Direction) :
    step completions typed d.back (step completions typed d c) = c ∧
      let n := completions.countP (typed.isPrefixOf ·)
      (visited completions typed d c n).Nodup ∧
        (∀ w, w ∈ visited completions typed d c n ↔ w ∈ completions ∧ typed <+: w) ∧
        (step completions typed d)^[n] c = c := by
  have size : completions.countP (typed.isPrefixOf ·) = (candidates completions typed).length :=
    List.countP_eq_length_filter
  have once : (candidates completions typed).Nodup := nodup.filter _
  have iff (w : Text) : w ∈ candidates completions typed ↔ w ∈ completions ∧ typed <+: w := by
    rw [candidates, List.mem_filter, List.isPrefixOf_iff_prefix]
  have hc : c ∈ candidates completions typed := (iff c).2 ⟨mem, start⟩
  have perm := perm_visited once hc d
  rw [size]
  refine ⟨step_back_step once hc d, perm.nodup_iff.2 once, fun w => perm.mem_iff.trans (iff w), ?_⟩
  rw [iterate_step once hc, rotation_pow_length once d, Equiv.Perm.one_apply]

/-- Going back from the first of three completions that begin with `f`, among others. -/
theorem step_around_feeds :
    let completions : List Text := ["feeds", "articles", "feedurl:", "%", "feed:"]
    completions.Nodup ∧ "feeds".toList ∈ completions ∧ "f".toList <+: "feeds".toList ∧
      visited completions "f" .backward "feeds" 3 = ["feed:", "feedurl:", "feeds"] ∧
      step completions "f" .forward (step completions "f" .backward "feeds") = "feeds".toList ∧
      (step completions "f" .backward)^[3] "feeds" = "feeds".toList := by
  intro completions
  have nodup : completions.Nodup := by decide
  have mem : "feeds".toList ∈ completions := by decide
  have start : "f".toList <+: "feeds".toList := by decide
  obtain ⟨undone, -, -, around⟩ := step_around nodup mem start .backward
  exact ⟨nodup, mem, start, by decide, undone, around⟩

end FeedReader.Completion
