import Mathlib

/-!
Results and lists of results. A traversal gives the results of all members, or the first error among
them.
-/
namespace BulkSql

section Results

variable {ε δ α β : Type} {x : Except ε α}

theorem map_eq_ok_iff {f : α → β} {b : β} : x.map f = .ok b ↔ ∃ a, x = .ok a ∧ f a = b := by
  cases x <;> simp [Except.map]

theorem map_eq_error_iff {f : α → β} {e : ε} : x.map f = .error e ↔ x = .error e := by
  cases x <;> simp [Except.map]

theorem mapError_eq_ok_iff {f : ε → δ} {a : α} : x.mapError f = .ok a ↔ x = .ok a := by
  cases x <;> simp [Except.mapError]

theorem mapError_eq_error_iff {f : ε → δ} {e : δ} :
    x.mapError f = .error e ↔ ∃ d, x = .error d ∧ f d = e := by
  cases x <;> simp [Except.mapError]

theorem bind_eq_ok_iff {f : α → Except ε β} {b : β} :
    (x >>= f) = .ok b ↔ ∃ a, x = .ok a ∧ f a = .ok b := by
  cases x <;> simp [bind, Except.bind]

theorem bind_eq_error_iff {f : α → Except ε β} {e : ε} :
    (x >>= f) = .error e ↔ x = .error e ∨ ∃ a, x = .ok a ∧ f a = .error e := by
  cases x <;> simp [bind, Except.bind]

end Results

section Traversal

variable {ε α β : Type} {f : α → Except ε β} {xs : List α}

theorem mapM_eq_ok_iff {ys : List β} :
    xs.mapM f = .ok ys ↔ List.Forall₂ (fun x y => f x = .ok y) xs ys := by
  induction xs generalizing ys with
  | nil =>
    rw [List.mapM_nil, List.forall₂_nil_left_iff]
    exact ⟨fun h => (Except.ok.inj h).symm, fun h => h ▸ rfl⟩
  | cons x xs ih =>
    rw [List.mapM_cons, bind_eq_ok_iff, List.forall₂_cons_left_iff]
    constructor
    · rintro ⟨y, first, h⟩
      obtain ⟨zs, others, h⟩ := bind_eq_ok_iff.1 h
      exact ⟨y, zs, first, ih.1 others, (Except.ok.inj h).symm⟩
    · rintro ⟨y, zs, first, others, rfl⟩
      exact ⟨y, first, bind_eq_ok_iff.2 ⟨zs, ih.2 others, rfl⟩⟩

/-- The error of a traversal is that of the first member that has one. -/
theorem mapM_eq_error_iff {e : ε} :
    xs.mapM f = .error e ↔
      ∃ (i : Nat) (hi : i < xs.length), f xs[i] = .error e ∧
        ∀ (j : Nat) (hj : j < i), ∃ y, f xs[j] = .ok y := by
  induction xs with
  | nil =>
    constructor
    · intro h
      cases h
    · rintro ⟨i, hi, -⟩
      exact absurd hi (by simp)
  | cons x xs ih =>
    rw [List.mapM_cons, bind_eq_error_iff]
    constructor
    · rintro (first | ⟨y, first, h⟩)
      · exact ⟨0, by simp, first, nofun⟩
      · obtain others | ⟨zs, -, h⟩ := bind_eq_error_iff.1 h
        · obtain ⟨i, hi, here, before⟩ := ih.1 others
          refine ⟨i + 1, by simpa using hi, here, ?_⟩
          rintro (- | j) hj
          · exact ⟨y, first⟩
          · exact before j (by omega)
        · cases h
    · rintro ⟨- | i, hi, here, before⟩
      · exact .inl here
      · obtain ⟨y, first⟩ := before 0 (by omega)
        refine .inr ⟨y, first, bind_eq_error_iff.2 (.inl (ih.2 ?_))⟩
        exact ⟨i, by simpa using hi, here, fun j hj => before (j + 1) (by omega)⟩

end Traversal

end BulkSql
