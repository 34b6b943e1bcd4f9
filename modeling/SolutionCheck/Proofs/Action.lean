import SolutionCheck.Machine

/-!
What actions do, however long they are. A property of what they act on may be kept, also when they fail; an
action may be sure to succeed from where a property holds; and all its faults may have a property. Each of
these holds of two actions in a row when it holds of both.
-/

namespace SolutionCheck.Action

variable {σ ε α β : Type}

theorem bind_of_ok {first : Action σ ε α} {s after : σ} {a : α} (done : first s = (.ok a, after))
    (next : α → Action σ ε β) : (first >>= next) s = next a after := by
  change Action.bind first next s = _
  rw [Action.bind, done]

theorem bind_of_error {first : Action σ ε α} {s after : σ} {fault : ε} (failed : first s = (.error fault, after))
    (next : α → Action σ ε β) : (first >>= next) s = (.error fault, after) := by
  change Action.bind first next s = _
  rw [Action.bind, failed]

def Gives (action : Action σ ε α) (a : α) : Prop := ∃ s after, action s = (.ok a, after)

def Keeps (P : σ → Prop) (action : Action σ ε α) : Prop := ∀ s, P s → P (action s).2

section Keeps

variable {P : σ → Prop}

theorem Keeps.bind {first : Action σ ε α} {next : α → Action σ ε β} (one : first.Keeps P)
    (two : ∀ a, first.Gives a → (next a).Keeps P) : Keeps P (first >>= next) := by
  intro s before
  have between := one s before
  rcases done : first s with ⟨_ | a, after⟩
  · rw [bind_of_error done]
    rwa [done] at between
  · rw [bind_of_ok done]
    rw [done] at between
    exact two a ⟨s, after, done⟩ after between

theorem keeps_pure (a : α) : Keeps P (pure a : Action σ ε α) := fun _ => id

theorem keeps_ofExcept (result : Except ε α) : Keeps P (ofExcept result) := fun _ => id

theorem Keeps.forM {step : β → Action σ ε Unit} {xs : List β} (each : ∀ x ∈ xs, (step x).Keeps P) :
    Keeps P (xs.forM step) := by
  induction xs with
  | nil => exact keeps_pure ()
  | cons x xs ih =>
    obtain ⟨here, later⟩ := List.forall_mem_cons.1 each
    exact here.bind fun _ _ => ih later

theorem Keeps.foldlM {step : α → β → Action σ ε α} {xs : List β} (each : ∀ a, ∀ x ∈ xs, (step a x).Keeps P)
    (start : α) : Keeps P (xs.foldlM step start) := by
  induction xs generalizing start with
  | nil => exact keeps_pure start
  | cons x xs ih =>
    rw [List.foldlM_cons]
    exact (each start x List.mem_cons_self).bind fun a _ => ih (fun a x mem => each a x (List.mem_cons_of_mem _ mem)) a

end Keeps

theorem look_eq (f : Disk → α) (m : Machine) : (look f : Action Machine ε α) m = (.ok (f m.disk), m) := rfl

theorem change_of_ok {f : Disk → Except ε Disk} {m : Machine} {disk : Disk} (done : f m.disk = .ok disk) :
    change f m = (.ok (), { m with disk }) := by
  rw [change, done]

theorem change_of_error {f : Disk → Except ε Disk} {m : Machine} {fault : ε} (failed : f m.disk = .error fault) :
    change f m = (.error fault, m) := by
  rw [change, failed]

theorem keeps_look {P : Machine → Prop} (f : Disk → α) : Keeps P (look f : Action Machine ε α) := fun _ => id

/-- From where the first property holds, the action gives a value that the second one has. -/
def Succeeds (P : σ → Prop) (action : Action σ ε α) (Q : α → σ → Prop) : Prop :=
  ∀ s, P s → ∃ a after, action s = (.ok a, after) ∧ Q a after

theorem Succeeds.bind {P : σ → Prop} {Q : α → σ → Prop} {R : β → σ → Prop} {first : Action σ ε α}
    {next : α → Action σ ε β} (one : first.Succeeds P Q) (two : ∀ a, (next a).Succeeds (Q a) R) :
    (first >>= next).Succeeds P R := by
  intro s before
  obtain ⟨a, between, done, met⟩ := one s before
  obtain ⟨b, after, finished, last⟩ := two a between met
  exact ⟨b, after, (bind_of_ok done next).trans finished, last⟩

/-- All faults of the action have a property. -/
def Blames (P : ε → Prop) (action : Action σ ε α) : Prop :=
  ∀ s fault, (action s).1 = .error fault → P fault

section Blames

variable {P : ε → Prop}

theorem Blames.bind {first : Action σ ε α} {next : α → Action σ ε β} (one : first.Blames P)
    (two : ∀ a, first.Gives a → (next a).Blames P) : Blames P (first >>= next) := by
  intro s fault failed
  rcases done : first s with ⟨fault' | a, after⟩
  · rw [bind_of_error done] at failed
    cases failed
    exact one s fault (congrArg Prod.fst done)
  · rw [bind_of_ok done] at failed
    exact two a ⟨s, after, done⟩ after fault failed

theorem blames_pure (a : α) : Blames P (pure a : Action σ ε α) := fun _ _ failed => by cases failed

theorem blames_ofExcept {result : Except ε α} (all : ∀ fault, result = .error fault → P fault) :
    Blames P (ofExcept result : Action σ ε α) := fun _ => all

end Blames

section Machine

variable {P : ε → Prop}

theorem blames_look (f : Disk → α) : Blames P (look f : Action Machine ε α) := fun _ _ failed => by cases failed

theorem exists_of_look_gives {f : Disk → α} {a : α} (given : (look f : Action Machine ε α).Gives a) :
    ∃ disk, f disk = a := by
  obtain ⟨m, _, done⟩ := given
  cases done
  exact ⟨m.disk, rfl⟩

theorem blames_change {f : Disk → Except ε Disk} (all : ∀ disk fault, f disk = .error fault → P fault) :
    Blames P (change f) := by
  intro m fault failed
  unfold change at failed
  split at failed
  · cases failed
  · next failed' =>
    cases failed
    exact all _ _ failed'

theorem blames_attempt {f : Disk → Disk × Option ε} (all : ∀ disk fault, (f disk).2 = some fault → P fault) :
    Blames P (attempt f) := by
  intro m fault failed
  unfold attempt at failed
  split at failed
  · cases failed
  · next failed' =>
    cases failed
    exact all _ _ (congrArg Prod.snd failed')

end Machine

end SolutionCheck.Action
