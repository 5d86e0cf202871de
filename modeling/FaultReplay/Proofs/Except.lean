import Mathlib.Data.List.Forall2

/-!
# Computations that may fail

What two computations in a row give, what a computation gives on a list, and which errors there can
be. A proof about a reader takes it apart with these lemmas and opens no `bind`.
-/

namespace Except

variable {ε α β : Type} {P Q : ε → Prop} {x : Except ε α} {f : α → Except ε β} {xs : List α}
  {ys : List β}

@[simp] theorem ok_bind (a : α) (f : α → Except ε β) : (Except.ok a >>= f) = f a := rfl

theorem exists_of_bind_eq_ok {b : β} (h : (x >>= f) = .ok b) : ∃ a, x = .ok a ∧ f a = .ok b := by
  cases x with
  | error e => cases h
  | ok a => exact ⟨a, rfl, h⟩

/-! ### Lists -/

/-- A computation on a list gives the values that it gives on the elements. -/
theorem mapM_eq_ok_iff_map : xs.mapM f = .ok ys ↔ xs.map f = ys.map .ok := by
  induction xs generalizing ys with
  | nil =>
      constructor
      · intro h
        cases h
        rfl
      · intro h
        obtain rfl := List.map_eq_nil_iff.1 h.symm
        rfl
  | cons x xs ih =>
      rw [List.mapM_cons, List.map_cons]
      constructor
      · intro h
        obtain ⟨first, computed, h⟩ := exists_of_bind_eq_ok h
        obtain ⟨rest, others, h⟩ := exists_of_bind_eq_ok h
        cases h
        rw [computed, ih.1 others, List.map_cons]
      · intro h
        obtain ⟨first, rest, rfl, computed, others⟩ := List.map_eq_cons_iff.1 h.symm
        rw [← computed, ok_bind, ih.2 others.symm]
        rfl

theorem mapM_eq_ok_iff_forall₂ :
    xs.mapM f = .ok ys ↔ List.Forall₂ (fun x y => f x = .ok y) xs ys := by
  rw [mapM_eq_ok_iff_map, ← List.forall₂_eq_eq_eq, List.forall₂_map_left_iff,
    List.forall₂_map_right_iff]

/-- What a list is computed to comes from its elements one by one. -/
theorem exists_of_mem_mapM (h : xs.mapM f = .ok ys) : ∀ y ∈ ys, ∃ x ∈ xs, f x = .ok y := by
  intro y mem
  have computed : Except.ok y ∈ xs.map f := by
    rw [mapM_eq_ok_iff_map.1 h]
    exact List.mem_map_of_mem mem
  exact List.mem_map.1 computed

/-- What a list is computed to has a value for each of its elements. -/
theorem exists_of_mapM_of_mem (h : xs.mapM f = .ok ys) : ∀ x ∈ xs, ∃ y ∈ ys, f x = .ok y := by
  intro x mem
  have computed : f x ∈ ys.map Except.ok := by
    rw [← mapM_eq_ok_iff_map.1 h]
    exact List.mem_map_of_mem mem
  obtain ⟨y, listed, same⟩ := List.mem_map.1 computed
  exact ⟨y, listed, same.symm⟩

/-- A computation that gives the values of a function on the elements of a list gives them on the
list. -/
theorem mapM_eq_ok {g : α → β} (h : ∀ x ∈ xs, f x = .ok (g x)) : xs.mapM f = .ok (xs.map g) := by
  rw [mapM_eq_ok_iff_map, List.map_map]
  exact List.map_congr_left h

/-- A computation that succeeds on every element of a list succeeds on the list. -/
theorem exists_mapM (h : ∀ x ∈ xs, ∃ y, f x = .ok y) : ∃ ys, xs.mapM f = .ok ys := by
  induction xs with
  | nil => exact ⟨[], rfl⟩
  | cons x xs ih =>
      obtain ⟨first, computed⟩ := h x List.mem_cons_self
      obtain ⟨rest, others⟩ := ih fun other mem => h other (List.mem_cons_of_mem _ mem)
      refine ⟨first :: rest, ?_⟩
      rw [List.mapM_cons, computed, ok_bind, others]
      rfl

/-- What is read back one by one is read back as a list. -/
theorem mapM_map_of_read {write : α → β} {read : β → Except ε α}
    (h : ∀ x ∈ xs, read (write x) = .ok x) : (xs.map write).mapM read = .ok xs := by
  have listed := mapM_eq_ok (g := id) (f := read ∘ write) h
  rw [List.mapM_map, listed, List.map_id]

/-! ### Errors -/

/-- If the computation fails, its error has the property. -/
def FailsWith (P : ε → Prop) (x : Except ε α) : Prop :=
  ∀ e, x = .error e → P e

namespace FailsWith

theorem ok (a : α) : (Except.ok a : Except ε α).FailsWith P := nofun

theorem error {e : ε} (h : P e) : (Except.error e : Except ε α).FailsWith P := by
  rintro _ ⟨rfl⟩
  exact h

/-- A sequence of steps fails as one of its steps does. -/
theorem bind (first : x.FailsWith P) (rest : ∀ a, (f a).FailsWith P) :
    (x >>= f).FailsWith P := by
  cases x with
  | error e => exact error (first e rfl)
  | ok a => exact rest a

/-- A step may rely on what the step before it has given. -/
theorem bind_of_ok (first : x.FailsWith P) (rest : ∀ a, x = .ok a → (f a).FailsWith P) :
    (x >>= f).FailsWith P := by
  cases x with
  | error e => exact error (first e rfl)
  | ok a => exact rest a rfl

/-- A computation on a list fails as it does on one of the elements. -/
theorem mapM (h : ∀ a ∈ xs, (f a).FailsWith P) : (xs.mapM f).FailsWith P := by
  induction xs with
  | nil => exact ok []
  | cons a xs ih =>
      rw [List.mapM_cons]
      refine (h a List.mem_cons_self).bind fun b => ?_
      exact (ih fun other mem => h other (List.mem_cons_of_mem _ mem)).bind fun bs => ok _

theorem mono (h : x.FailsWith P) (weaker : ∀ e, P e → Q e) : x.FailsWith Q :=
  fun e failed => weaker e (h e failed)

end FailsWith

end Except
