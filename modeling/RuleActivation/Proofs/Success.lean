import Mathlib.Data.List.Forall2

/-!
# Computations that succeed

What is known of the parts of a computation once it is known that the whole one succeeds, or that it
fails. Readers, checks and commands are all taken apart in this way, one step after the other.

## Main definitions

* `SameResult`: computations that succeed in related ways, or fail in the same way

## Main results

* `bind_eq_ok_iff`: a step and what follows it
* `mapM_eq_ok`, `forall₂_of_mapM_eq_ok`: the same computation for each item of a list
* `exists_mapM_eq_ok_iff`: when it succeeds
* `mapM_eq_error_iff`: the first item for which it fails
-/

namespace RuleActivation

variable {ε ε' α β : Type}

theorem bind_eq_ok_iff {x : Except ε α} {f : α → Except ε β} {b : β} :
    x >>= f = .ok b ↔ ∃ a, x = .ok a ∧ f a = .ok b := by
  cases x with
  | ok a => exact ⟨fun h => ⟨a, rfl, h⟩, fun ⟨_, same, h⟩ => Except.ok.inj same ▸ h⟩
  | error e => exact ⟨nofun, nofun⟩

theorem mapError_eq_ok_iff {x : Except ε α} {f : ε → ε'} {a : α} :
    x.mapError f = .ok a ↔ x = .ok a := by
  cases x with
  | ok b => exact ⟨fun h => congrArg _ (Except.ok.inj h), fun h => congrArg _ (Except.ok.inj h)⟩
  | error e => exact ⟨nofun, nofun⟩

theorem toOption_eq_some_iff {x : Except ε α} {a : α} : x.toOption = some a ↔ x = .ok a := by
  cases x <;> simp [Except.toOption]

theorem mapM_eq_ok {f : α → Except ε β} {g : α → β} {xs : List α}
    (h : ∀ x ∈ xs, f x = .ok (g x)) : xs.mapM f = .ok (xs.map g) := by
  induction xs with
  | nil => rfl
  | cons x xs ih =>
    obtain ⟨first, others⟩ := List.forall_mem_cons.1 h
    rw [List.mapM_cons, first, ih others]
    rfl

theorem forall₂_of_mapM_eq_ok {f : α → Except ε β} {xs : List α} {ys : List β}
    (h : xs.mapM f = .ok ys) : List.Forall₂ (fun x y => f x = .ok y) xs ys := by
  induction xs generalizing ys with
  | nil =>
    cases h
    exact .nil
  | cons x xs ih =>
    rw [List.mapM_cons] at h
    obtain ⟨y, first, h⟩ := bind_eq_ok_iff.1 h
    obtain ⟨ys, others, same⟩ := bind_eq_ok_iff.1 h
    obtain rfl := Except.ok.inj same
    exact .cons first (ih others)

/-- What is done for each item of a list succeeds if it succeeds for each item. -/
theorem exists_mapM_eq_ok_iff {f : α → Except ε β} {xs : List α} :
    (∃ ys, xs.mapM f = .ok ys) ↔ ∀ x ∈ xs, ∃ y, f x = .ok y := by
  induction xs with
  | nil => exact iff_of_true ⟨[], rfl⟩ nofun
  | cons x xs ih =>
    rw [List.mapM_cons, List.forall_mem_cons, ← ih]
    constructor
    · rintro ⟨ys, h⟩
      obtain ⟨y, first, h⟩ := bind_eq_ok_iff.1 h
      obtain ⟨ys, others, -⟩ := bind_eq_ok_iff.1 h
      exact ⟨⟨y, first⟩, ys, others⟩
    · rintro ⟨⟨y, first⟩, ys, others⟩
      rw [first, others]
      exact ⟨y :: ys, rfl⟩

theorem exists_mem_of_forall₂ {R : α → β → Prop} {xs : List α} {ys : List β}
    (h : List.Forall₂ R xs ys) {y : β} (mem : y ∈ ys) : ∃ x ∈ xs, R x y := by
  induction h with
  | nil => cases mem
  | cons first _ ih =>
    rcases List.mem_cons.1 mem with rfl | mem
    · exact ⟨_, List.mem_cons_self, first⟩
    · obtain ⟨x, there, related⟩ := ih mem
      exact ⟨x, List.mem_cons_of_mem _ there, related⟩

theorem map_eq_map_of_forall₂ {γ : Type} {f : α → γ} {g : β → γ} {xs : List α} {ys : List β}
    (h : List.Forall₂ (fun x y => f x = g y) xs ys) : xs.map f = ys.map g := by
  rw [← List.forall₂_eq_eq_eq, List.forall₂_map_left_iff, List.forall₂_map_right_iff]
  exact h

/-! ## Computations that fail -/

theorem bind_eq_error_iff {x : Except ε α} {f : α → Except ε β} {e : ε} :
    x >>= f = .error e ↔ x = .error e ∨ ∃ a, x = .ok a ∧ f a = .error e := by
  cases x with
  | ok a =>
    refine ⟨fun h => .inr ⟨a, rfl, h⟩, ?_⟩
    rintro (first | ⟨b, same, h⟩)
    · cases first
    · exact Except.ok.inj same ▸ h
  | error e' =>
    refine ⟨fun h => .inl (congrArg _ (Except.error.inj h)), ?_⟩
    rintro (first | ⟨b, same, h⟩)
    · exact congrArg _ (Except.error.inj first)
    · cases same

theorem mapError_eq_error_iff {x : Except ε α} {f : ε → ε'} {e : ε'} :
    x.mapError f = .error e ↔ ∃ e', x = .error e' ∧ f e' = e := by
  cases x with
  | ok a => exact ⟨nofun, nofun⟩
  | error e' =>
    exact ⟨fun h => ⟨e', rfl, Except.error.inj h⟩,
      fun ⟨_, same, h⟩ => congrArg _ (Except.error.inj same ▸ h)⟩

/-- What is done for each item of a list fails as it does for the first item for which it fails. -/
theorem mapM_eq_error_iff {f : α → Except ε β} {xs : List α} {e : ε} :
    xs.mapM f = .error e ↔ ∃ before x after, xs = before ++ x :: after ∧
      (∀ y ∈ before, ∃ b, f y = .ok b) ∧ f x = .error e := by
  induction xs with
  | nil => exact ⟨nofun, fun ⟨before, x, after, split, _⟩ => by simp at split⟩
  | cons x xs ih =>
    rw [List.mapM_cons, bind_eq_error_iff]
    constructor
    · rintro (first | ⟨b, first, later⟩)
      · exact ⟨[], x, xs, rfl, nofun, first⟩
      · rcases bind_eq_error_iff.1 later with others | ⟨bs, -, returned⟩
        · obtain ⟨before, y, after, rfl, good, bad⟩ := ih.1 others
          exact ⟨x :: before, y, after, rfl, List.forall_mem_cons.2 ⟨⟨b, first⟩, good⟩, bad⟩
        · cases returned
    · rintro ⟨before, y, after, split, good, bad⟩
      cases before with
      | nil =>
        obtain ⟨rfl, -⟩ := List.cons.inj split
        exact .inl bad
      | cons z before =>
        obtain ⟨rfl, rfl⟩ := List.cons.inj split
        obtain ⟨⟨b, first⟩, others⟩ := List.forall_mem_cons.1 good
        exact .inr ⟨b, first,
          bind_eq_error_iff.2 (.inl (ih.2 ⟨before, y, after, rfl, others, bad⟩))⟩

/-! ## Related computations -/

/-- Two computations have related results, or they fail with the same error. -/
inductive SameResult (R : α → β → Prop) : Except ε α → Except ε β → Prop where
  | ok {a : α} {b : β} (h : R a b) : SameResult R (.ok a) (.ok b)
  | error (e : ε) : SameResult R (.error e) (.error e)

theorem SameResult.refl {R : α → α → Prop} (h : ∀ a, R a a) (x : Except ε α) :
    SameResult R x x := by
  cases x with
  | ok a => exact .ok (h a)
  | error e => exact .error e

theorem SameResult.toOption {R : α → β → Prop} {x : Except ε α} {y : Except ε β}
    (h : SameResult R x y) : Option.Rel R x.toOption y.toOption := by
  cases h with
  | ok h => exact .some h
  | error e => exact .none

end RuleActivation
