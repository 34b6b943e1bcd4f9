import SolutionCheck.Disk
/-!
What a run acts on: the disk, and the programs that it starts outside. An outside program gets a
command and answers with a reply; which reply is left open. An action may fail, and what it did to the
machine before it failed stays done.
-/

namespace SolutionCheck

structure Command where
  program : String
  arguments : List String
  folder : String
  timeoutSeconds : Nat
  contents : List (Location × Entry)
deriving DecidableEq

inductive Reply where
  | notStarted (fault : FileFault)
  | overran
  /-- it ended, with a status unless it was killed, and left the folder with some contents -/
  | finished (status : Option Nat) (output errors : List UInt8) (contents : List (Location × Entry))
deriving DecidableEq

abbrev Evaluator := Command → Reply

structure Machine where
  disk : Disk
  commands : List Command
deriving DecidableEq

/-- A step on something that changes: a value or a fault, and what the thing has become. -/
def Action (σ ε α : Type) := σ → Except ε α × σ

namespace Action

variable {σ ε α β : Type}

def pure (a : α) : Action σ ε α := fun s => (.ok a, s)

def bind (first : Action σ ε α) (next : α → Action σ ε β) : Action σ ε β := fun s =>
  match first s with
  | (.ok a, s) => next a s
  | (.error fault, s) => (.error fault, s)

instance : Monad (Action σ ε) where
  pure := Action.pure
  bind := Action.bind

def ofExcept (result : Except ε α) : Action σ ε α := fun s => (result, s)

def look (f : Disk → α) : Action Machine ε α := fun m => (.ok (f m.disk), m)

def change (f : Disk → Except ε Disk) : Action Machine ε Unit := fun m =>
  match f m.disk with
  | .ok disk => (.ok (), { m with disk })
  | .error fault => (.error fault, m)

/-- Change the disk, also when that fails in the end. -/
def attempt (f : Disk → Disk × Option ε) : Action Machine ε Unit := fun m =>
  match f m.disk with
  | (disk, none) => (.ok (), { m with disk })
  | (disk, some fault) => (.error fault, { m with disk })

/-- Do a last step after another one, whether that failed or not. -/
def thenAlways (first : Action Machine ε α) (last : Disk → Disk) : Action Machine ε α := fun m =>
  let (result, m) := first m
  (result, { m with disk := last m.disk })

end Action

end SolutionCheck
