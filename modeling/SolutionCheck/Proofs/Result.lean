import Mathlib.Data.List.Forall2

/-!
Results of steps that may fail. What several steps give together is there just when each of them gives
something, and a list is gone through without a fault just when none of its elements has one. In a
numbered list the first fault is that of the element behind the longest start without one.
-/

namespace SolutionCheck

variable {ε α β : Type}

theorem bind_eq_ok {first : Except ε α} {next : α → Except ε β} {b : β} (done : first >>= next = .ok b) :
    ∃ a, first = .ok a ∧ next a = .ok b := by
  cases first with
  | error fault => cases done
  | ok a => exact ⟨a, rfl, done⟩

theorem map_eq_ok {first : Except ε α} {f : α → β} {b : β} (done : first.map f = .ok b) :
    ∃ a, first = .ok a ∧ f a = b := by
  cases first with
  | error fault => cases done
  | ok a => exact ⟨a, rfl, Except.ok.inj done⟩

theorem mapError_eq_error {ε' : Type} {first : Except ε α} {f : ε → ε'} {fault : ε'}
    (failed : first.mapError f = .error fault) : ∃ cause, first = .error cause ∧ f cause = fault := by
  cases first with
  | error cause => exact ⟨cause, rfl, by cases failed; rfl⟩
  | ok a => cases failed

theorem exists_eq_ok {α : Type*} {result : Except ε α} (sound : ¬ ∃ fault, result = .error fault) :
    ∃ a, result = .ok a := by
  cases result with
  | error fault => exact absurd ⟨fault, rfl⟩ sound
  | ok a => exact ⟨a, rfl⟩

theorem findSome?_zipIdx_congr {R : α → α → Prop} {f g : α × Nat → Option β}
    (same : ∀ a b i, R a b → f (a, i) = g (b, i)) {xs ys : List α} (related : List.Forall₂ R xs ys)
    (start : Nat) : (xs.zipIdx start).findSome? f = (ys.zipIdx start).findSome? g := by
  induction related generalizing start with
  | nil => rfl
  | cons head _ ih => simp only [List.zipIdx_cons, List.findSome?_cons, same _ _ start head, ih]

theorem forall_mem_zipIdx_iff (p : α → Prop) (xs : List α) (start : Nat) :
    (∀ entry ∈ xs.zipIdx start, p entry.1) ↔ ∀ x ∈ xs, p x := by
  conv_rhs => rw [← List.zipIdx_map_fst start xs]
  exact List.forall_mem_map.symm

theorem findSome?_zipIdx_eq_some_iff (f : α × Nat → Option β) (xs : List α) (start : Nat) (b : β) :
    (xs.zipIdx start).findSome? f = some b ↔ ∃ good x rest, xs = good ++ x :: rest ∧
      (∀ entry ∈ good.zipIdx start, f entry = none) ∧ f (x, start + good.length) = some b := by
  rw [List.findSome?_eq_some_iff]
  constructor
  · rintro ⟨before, entry, after, parts, found, fine⟩
    obtain ⟨good, others, rfl, rfl, shifted⟩ := List.zipIdx_eq_append_iff.1 parts
    obtain ⟨x, rest, rfl, rfl, -⟩ := List.zipIdx_eq_cons_iff.1 shifted.symm
    exact ⟨good, x, rest, rfl, fine, found⟩
  · rintro ⟨good, x, rest, rfl, fine, found⟩
    exact ⟨_, _, _, by rw [List.zipIdx_append, List.zipIdx_cons], found, fine⟩

theorem findSome?_zipIdx_ite_eq_some_iff (p : α → Bool) (f : α → Nat → β) (xs : List α) (start : Nat) (b : β) :
    ((xs.zipIdx start).findSome? fun entry => if p entry.1 then none else some (f entry.1 entry.2)) =
        some b ↔
      ∃ good x rest, xs = good ++ x :: rest ∧ (∀ y ∈ good, p y = true) ∧ ¬ p x = true ∧
        b = f x (start + good.length) := by
  rw [findSome?_zipIdx_eq_some_iff]
  refine exists_congr fun good => exists_congr fun x => exists_congr fun rest => and_congr_right fun _ => ?_
  rw [← forall_mem_zipIdx_iff (fun y => p y = true) good start]
  by_cases here : p x = true <;> simp [here, eq_comm (a := b)]

variable {f : α → Except ε β}

theorem mapM_eq_ok_iff {xs : List α} {ys : List β} :
    xs.mapM f = .ok ys ↔ List.Forall₂ (fun x y => f x = .ok y) xs ys := by
  induction xs generalizing ys with
  | nil => simp [List.mapM_nil, pure, Except.pure, eq_comm]
  | cons x xs ih =>
    rw [List.mapM_cons, List.forall₂_cons_left_iff]
    cases first : f x with
    | error fault => simp [bind, Except.bind]
    | ok y =>
      cases rest : xs.mapM f with
      | error fault =>
        have none (zs : List β) : ¬ List.Forall₂ (fun x y => f x = .ok y) xs zs := by
          simp [← ih, rest]
        simp [bind, Except.bind, none]
      | ok zs =>
        simp only [bind, Except.bind, pure, Except.pure, ← ih, rest, Except.ok.injEq]
        exact ⟨fun same => ⟨y, zs, rfl, rfl, same.symm⟩, fun ⟨_, _, here, there, same⟩ => by
          rw [same, here, there]⟩

theorem mapM_eq_error_iff {xs : List α} :
    (∃ fault, xs.mapM f = .error fault) ↔ ∃ x ∈ xs, ∃ fault, f x = .error fault := by
  induction xs with
  | nil => simp [List.mapM_nil, pure, Except.pure]
  | cons x xs ih =>
    rw [List.mapM_cons, List.exists_mem_cons_iff, ← ih]
    cases first : f x with
    | error fault => simp [bind, Except.bind]
    | ok y => cases rest : xs.mapM f <;> simp [bind, Except.bind, pure, Except.pure]

end SolutionCheck
