import FeedReader.Failure
import Mathlib.Data.List.Forall2

/-!
# Results

Taking apart a computation that has given a value, or an error.

* `bind_eq_ok_iff`, `map_eq_ok_iff`, `mapError_eq_ok_iff`;
* `bind_eq_error_iff`, `map_eq_error_iff`, `mapError_eq_error_iff`;
* `mapError_map_eq_mishap_iff`: a mishap stays one where errors are put into larger ones;
* `mapM_eq_ok_iff`, `mapM_eq_error_iff`: the same for one computation after the other.
-/

namespace FeedReader

variable {ε δ α β : Type}

theorem bind_eq_ok_iff {x : Except ε α} {f : α → Except ε β} {b : β} :
    x >>= f = .ok b ↔ ∃ a, x = .ok a ∧ f a = .ok b := by
  cases x <;> simp [bind, Except.bind]

theorem map_eq_ok_iff {x : Except ε α} {f : α → β} {b : β} :
    x.map f = .ok b ↔ ∃ a, x = .ok a ∧ f a = b := by
  cases x <;> simp [Except.map]

theorem mapError_eq_ok_iff {x : Except ε α} {f : ε → δ} {a : α} :
    x.mapError f = .ok a ↔ x = .ok a := by
  cases x with
  | error e => exact ⟨nofun, nofun⟩
  | ok b => exact ⟨fun h => congrArg _ (Except.ok.inj h), fun h => congrArg _ (Except.ok.inj h)⟩

theorem bind_eq_error_iff {x : Except ε α} {f : α → Except ε β} {e : ε} :
    x >>= f = .error e ↔ x = .error e ∨ ∃ a, x = .ok a ∧ f a = .error e := by
  cases x <;> simp [bind, Except.bind]

theorem map_eq_error_iff {x : Except ε α} {f : α → β} {e : ε} :
    x.map f = .error e ↔ x = .error e := by
  cases x <;> simp [Except.map]

theorem mapError_eq_error_iff {x : Except ε α} {f : ε → δ} {d : δ} :
    x.mapError f = .error d ↔ ∃ e, x = .error e ∧ f e = d := by
  cases x with
  | error e =>
    constructor
    · exact fun h => ⟨e, rfl, Except.error.inj h⟩
    · rintro ⟨_, same, rfl⟩
      cases same
      rfl
  | ok a => exact ⟨nofun, nofun⟩

theorem mapError_map_eq_mishap_iff {x : Except (Failure ε) α} {f : ε → δ} {m : Mishap} :
    x.mapError (Failure.map f) = .error (.mishap m) ↔ x = .error (.mishap m) := by
  rw [mapError_eq_error_iff]
  constructor
  · rintro ⟨_ | m', same, kept⟩
    · cases kept
    · cases kept
      exact same
  · exact fun same => ⟨_, same, rfl⟩

section List

variable {f : α → Except ε β} {l : List α}

/-- A list is gone through if each of its entries gives a value. -/
theorem mapM_eq_ok_iff {bs : List β} :
    l.mapM f = .ok bs ↔ List.Forall₂ (fun a b => f a = .ok b) l bs := by
  induction l generalizing bs with
  | nil => cases bs <;> simp [pure, Except.pure]
  | cons a l ih =>
    rw [List.mapM_cons, bind_eq_ok_iff]
    simp only [bind_eq_ok_iff, ih, List.forall₂_cons_left_iff]
    simp [pure, Except.pure, eq_comm]

/-- A list is gone through up to the first of its entries that gives an error. -/
theorem mapM_eq_error_iff {e : ε} :
    l.mapM f = .error e ↔ ∃ before a after, l = before ++ a :: after ∧
      (∀ x ∈ before, ∃ b, f x = .ok b) ∧ f a = .error e := by
  induction l with
  | nil => simp [pure, Except.pure]
  | cons a l ih =>
    rw [List.mapM_cons, bind_eq_error_iff]
    constructor
    · rintro (here | ⟨b, read, later⟩)
      · exact ⟨[], a, l, rfl, List.forall_mem_nil _, here⟩
      · rcases bind_eq_error_iff.1 later with failed | ⟨_, _, impossible⟩
        · obtain ⟨before, x, after, rfl, reads, failed⟩ := ih.1 failed
          exact ⟨a :: before, x, after, rfl, List.forall_mem_cons.2 ⟨⟨b, read⟩, reads⟩, failed⟩
        · cases impossible
    · rintro ⟨_ | ⟨_, before⟩, x, after, split, reads, failed⟩
      · obtain ⟨rfl, rfl⟩ := List.cons.inj split
        exact .inl failed
      · obtain ⟨rfl, rfl⟩ := List.cons.inj split
        obtain ⟨⟨b, read⟩, reads⟩ := List.forall_mem_cons.1 reads
        exact .inr ⟨b, read, bind_eq_error_iff.2 (.inl (ih.2 ⟨_, _, _, rfl, reads, failed⟩))⟩

end List

end FeedReader
