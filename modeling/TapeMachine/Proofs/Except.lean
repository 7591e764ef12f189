/-!
# Computations that may fail

What it says about the parts of a computation that it has a value, or that it has an error.

* `mapError_eq_ok_iff`, `mapError_eq_error_iff`, `toOption_eq_some` : values and errors seen as others;
* `exists_of_bind_eq_ok` : **a computation with a value has one in its first part**;
* `exists_mapM_eq_ok`, `mapM_eq_ok_iff`, `mapM_eq_error` : **the values of a list**, one by one, or the first item that
  has none;
* `FailsOnly`, `FailsOnly.bind` : errors of one kind only.
-/

namespace TapeMachine

variable {ε ε' α β γ : Type}

/-! ## 1. Single computations -/

section Single

variable {f : ε → ε'} {result : Except ε α} {x : α} {e : ε'}

theorem mapError_ok (f : ε → ε') (x : α) : (Except.ok x : Except ε α).mapError f = .ok x := rfl

/-- Errors of a wider kind leave a value as it is. -/
theorem mapError_eq_ok_iff : result.mapError f = .ok x ↔ result = .ok x := by
  cases result with
  | error d => exact ⟨nofun, nofun⟩
  | ok y => rw [mapError_ok, Except.ok.injEq, Except.ok.injEq]

/-- An error of the wider kind comes from one of the narrower kind. -/
theorem mapError_eq_error_iff : result.mapError f = .error e ↔ ∃ d, result = .error d ∧ f d = e := by
  cases result with
  | error d =>
      constructor
      · intro h
        cases h
        exact ⟨d, rfl, rfl⟩
      · rintro ⟨_, hd, rfl⟩
        cases hd
        rfl
  | ok y => exact ⟨nofun, fun ⟨_, h, _⟩ => nomatch h⟩

theorem toOption_eq_some : result.toOption = some x ↔ result = .ok x := by
  cases result <;> simp [Except.toOption]

/-- **Where a computation has a value, its first part has one.** -/
theorem exists_of_bind_eq_ok {next : α → Except ε β} {y : β} (h : (result >>= next) = .ok y) :
    ∃ x, result = .ok x ∧ next x = .ok y := by
  cases result with
  | error e => cases h
  | ok x => exact ⟨x, rfl, h⟩

end Single

/-! ## 2. Lists -/

section Lists

variable {f : α → Except ε β} {xs : List α}

/-- **A function that gives a value for every item gives the values of a list**, one by one. -/
theorem exists_mapM_eq_ok (h : ∀ x ∈ xs, ∃ y, f x = .ok y) : ∃ ys, xs.mapM f = .ok ys ∧ ys.map .ok = xs.map f := by
  induction xs with
  | nil => exact ⟨[], rfl, rfl⟩
  | cons x xs ih =>
      obtain ⟨y, hy⟩ := h x (by simp)
      obtain ⟨ys, hys, hmap⟩ := ih fun z hz => h z (by simp [hz])
      refine ⟨y :: ys, ?_, by rw [List.map_cons, List.map_cons, hy, hmap]⟩
      rw [List.mapM_cons, hy, hys]
      rfl

/-- The values of a list are those of its items. -/
theorem mapM_eq_ok_iff {ys : List β} : xs.mapM f = .ok ys ↔ ys.map .ok = xs.map f := by
  induction xs generalizing ys with
  | nil => cases ys <;> simp [pure, Except.pure]
  | cons x xs ih =>
      rw [List.mapM_cons, List.map_cons, List.map_eq_cons_iff]
      constructor
      · intro h
        obtain ⟨y, hy, h⟩ := exists_of_bind_eq_ok h
        obtain ⟨zs, hzs, h⟩ := exists_of_bind_eq_ok h
        cases h
        exact ⟨y, zs, rfl, hy.symm, ih.mp hzs⟩
      · rintro ⟨y, zs, rfl, hy, hzs⟩
        rw [← hy, ih.mpr hzs]
        rfl

/-- Where a list has its values, each item has one of them. -/
theorem exists_mem_of_map_ok {ys : List β} {x : α} (h : ys.map .ok = xs.map f) (hx : x ∈ xs) :
    ∃ y ∈ ys, f x = .ok y := by
  have hmem := List.mem_map_of_mem (f := f) hx
  rw [← h] at hmem
  obtain ⟨y, hy, heq⟩ := List.mem_map.mp hmem
  exact ⟨y, hy, heq.symm⟩

/-- What the values of a list have in common with the items. -/
theorem map_eq_of_map_ok {ys : List β} {g : β → γ} {k : α → γ} (h : ys.map .ok = xs.map f)
    (hk : ∀ x y, f x = .ok y → k x = g y) : ys.map g = xs.map k := by
  induction xs generalizing ys with
  | nil =>
      rw [List.map_nil, List.map_eq_nil_iff] at h
      rw [h]
      rfl
  | cons x xs ih =>
      obtain ⟨y, ys, rfl, hy, hys⟩ := List.map_eq_cons_iff.mp h
      rw [List.map_cons, List.map_cons, hk x y hy.symm, ih hys]

/-- **The first item without a value ends a list.** -/
theorem mapM_eq_error {front rest : List α} {x : α} {e : ε} (hfront : ∀ z ∈ front, ∃ y, f z = .ok y)
    (hx : f x = .error e) : (front ++ x :: rest).mapM f = .error e := by
  induction front with
  | nil =>
      rw [List.nil_append, List.mapM_cons, hx]
      rfl
  | cons z front ih =>
      obtain ⟨y, hy⟩ := hfront z (by simp)
      rw [List.cons_append, List.mapM_cons, hy, ih fun w hw => hfront w (by simp [hw])]
      rfl

end Lists

/-! ## 3. Kinds of errors -/

section Kinds

/-- Whether every error of a computation is of one kind. -/
def FailsOnly (kind : ε → Prop) (result : Except ε α) : Prop :=
  ∀ e, result = .error e → kind e

variable {kind : ε → Prop} {result : Except ε α}

theorem failsOnly_ok (x : α) : FailsOnly kind (.ok x : Except ε α) :=
  fun _ h => nomatch h

theorem failsOnly_error {e : ε} (h : kind e) : FailsOnly kind (.error e : Except ε α) := by
  intro _ heq
  cases heq
  exact h

/-- Errors of one part after the other. -/
theorem FailsOnly.bind {next : α → Except ε β} (h : FailsOnly kind result) (hnext : ∀ x, FailsOnly kind (next x)) :
    FailsOnly kind (result >>= next) := by
  cases result with
  | error e => exact failsOnly_error (h e rfl)
  | ok x => exact hnext x

theorem failsOnly_mapM {f : α → Except ε β} {xs : List α} (h : ∀ x ∈ xs, FailsOnly kind (f x)) :
    FailsOnly kind (xs.mapM f) := by
  induction xs with
  | nil => exact failsOnly_ok []
  | cons x xs ih =>
      rw [List.mapM_cons]
      exact (h x (by simp)).bind fun y => (ih fun z hz => h z (by simp [hz])).bind fun ys => failsOnly_ok (y :: ys)

end Kinds

end TapeMachine
