import SolutionCheck.Run
import SolutionCheck.Proofs.Database
import SolutionCheck.Proofs.Disk
import SolutionCheck.Proofs.Loading

/-!
What a run leaves on the disk. Everything happens in a folder that was free before, and taking the
folder away brings back the disk as it was, since no step changed anything outside it. Names of
relations decide this for rules: a file of facts whose name leads upwards lies outside the folder.
-/

namespace SolutionCheck

namespace Run

open SolutionCheck.Action Disk

variable {backend : String}

/-- A path to a place for a folder where nothing stands, there or below. -/
structure FreshFolder (base : Disk) (folder : String) (location : Location) : Prop where
  located : base.locate folder = .ok location
  free : base.entry? location = none
  bare : base.remove location = base

/-- The disk of the machine is the given one but for what stands at a location and below. -/
def Elsewhere (base : Disk) (location : Location) (m : Machine) : Prop := m.disk.remove location = base

theorem FreshFolder.foldersIn {base disk : Disk} {folder : String} {location : Location}
    (fresh : FreshFolder base folder location) (same : disk.remove location = base) :
    base.FoldersIn disk := by
  intro other stands
  have notRoot : location ≠ [] := by
    rintro rfl
    cases fresh.free
  have outside : ¬ location <+: other := by
    intro below
    rw [← fresh.bare, entry?_remove_of_below base below notRoot] at stands
    cases stands
  rw [← stands, ← same, entry?_remove disk outside]

theorem FreshFolder.locate {base : Disk} {folder : String} {location : Location} {m : Machine}
    (fresh : FreshFolder base folder location) (same : Elsewhere base location m) :
    m.disk.locate folder = .ok location := by
  have restored : m.disk.remove location = base := same
  have working : m.disk.workingFolder = base.workingFolder := by
    rw [← restored]
    rfl
  exact locate_mono (fresh.foldersIn same) working fresh.located

theorem keeps_change {base : Disk} {location : Location} {f : Disk → Except EngineFault Disk}
    (inside : ∀ m : Machine, ∀ made, Elsewhere base location m → f m.disk = .ok made →
      made.remove location = m.disk.remove location) :
    Keeps (Elsewhere base location) (change f) := by
  intro m same
  unfold change
  split
  · next made done => exact (inside m made same done).trans same
  · exact same

theorem keeps_writeFile {base : Disk} {folder : String} {location : Location}
    (fresh : FreshFolder base folder location) {name : String} (down : Path.Descends name) (text : String) :
    Keeps (Elsewhere base location) (writeFile backend folder name text) := by
  refine keeps_change fun m made same done => ?_
  cases written : m.disk.writeText (Path.join folder name) text with
  | error fault =>
    rw [written] at done
    cases done
  | ok after =>
    rw [written] at done
    cases done
    obtain ⟨inner, found, rfl⟩ := writeText_eq_ok written
    exact remove_put m.disk (locate_join (fresh.locate same) down found) _

theorem keeps_start {base : Disk} {folder : String} {location : Location}
    (fresh : FreshFolder base folder location) (evaluate : Evaluator) (limits : RunLimits)
    (program : String) (arguments : List String) :
    Keeps (Elsewhere base location) (start backend evaluate limits program arguments folder) := by
  intro m same
  have place : (m.disk.locate folder).toOption.getD [] = location := by rw [fresh.locate same]; rfl
  unfold start
  simp only [place]
  split
  · exact same
  · split
    · exact same
    · exact same
    · have left := remove_setContents m.disk location
      split
      · exact (left _).trans same
      · exact (left _).trans same

theorem keeps_readResult [Json.Numerals] {base : Disk} {location : Location} (folder : String) :
    Keeps (Elsewhere base location) (readResult folder) :=
  (keeps_look _).bind fun _ _ => (keeps_ofExcept _).bind fun _ _ => keeps_ofExcept _

theorem keeps_readAnswer {base : Disk} {location : Location} (folder : String) (task : Task) :
    Keeps (Elsewhere base location) (readAnswer folder task) :=
  (keeps_look _).bind fun _ _ => (keeps_ofExcept _).bind fun _ _ => (keeps_ofExcept _).bind fun _ _ => keeps_pure _

theorem keeps_writeFacts {base : Disk} {folder : String} {location : Location}
    (fresh : FreshFolder base folder location) {inputs : List (String × Table)}
    (down : ∀ entry ∈ inputs, Path.Descends (Logic.factFile entry.1)) :
    Keeps (Elsewhere base location) (writeFacts folder inputs) := by
  induction inputs with
  | nil => exact keeps_pure ()
  | cons entry rest ih =>
    obtain ⟨here, others⟩ := List.forall_mem_cons.1 down
    exact (keeps_ofExcept _).bind fun text _ => (keeps_writeFile fresh here text).bind fun _ _ => ih others

def rooted (limits : RunLimits) (disk : Disk) : Disk :=
  (limits.workRoot.map fun root => (disk.ensureFolder root).1).getD disk

theorem disk_ensureWorkRoot (limits : RunLimits) (m : Machine) :
    (ensureWorkRoot backend limits m).2.disk = rooted limits m.disk := by
  unfold ensureWorkRoot rooted
  cases limits.workRoot with
  | none => rfl
  | some root =>
    cases made : m.disk.ensureFolder root with
    | mk disk fault => cases fault <;> simp [attempt, made]

theorem elsewhere_restored {base : Disk} {folder : String} {location : Location} {m : Machine}
    (fresh : FreshFolder base folder location) (same : Elsewhere base location m) :
    closeFolder folder m.disk = base := by
  rw [closeFolder, fresh.locate same]
  exact same

/-- The folder of a run is made at a free place, or nothing is made but the folder for it to lie in. -/
theorem openFolder_cases (limits : RunLimits) {m : Machine} (tree : (rooted limits m.disk).IsTree) :
    (∃ fault after, openFolder backend limits m = (.error fault, after) ∧ after.disk = rooted limits m.disk) ∨
    ∃ path location after, openFolder backend limits m = (.ok path, after) ∧
      FreshFolder (rooted limits m.disk) path location ∧ Elsewhere (rooted limits m.disk) location after := by
  rw [← @disk_ensureWorkRoot backend limits m] at tree ⊢
  unfold openFolder
  rcases ensured : ensureWorkRoot backend limits m with ⟨fault | _, ready⟩
  · exact .inl ⟨fault, ready, bind_of_error ensured _, rfl⟩
  · rw [ensured] at tree
    rw [bind_of_ok ensured, bind_of_ok (look_eq _ ready)]
    generalize newFolderPath ready.disk limits = path
    cases made : ready.disk.createFolder path with
    | error fault =>
      refine .inl ⟨⟨backend, .noFolder path fault⟩, ready, bind_of_error (change_of_error ?_) _, rfl⟩
      rw [made]
      rfl
    | ok disk =>
      obtain ⟨location, found, free, rfl⟩ := createFolder_eq_ok made
      have bare := tree.remove_eq_self free
      refine .inr ⟨path, location, _, bind_of_ok (change_of_ok ?_) _, ⟨found, free, bare⟩,
        (remove_put ready.disk (List.prefix_refl location) .folder).trans bare⟩
      rw [made]
      rfl

/-- Whatever is done in the folder of a run, the disk is afterwards as it was when the folder was
made, provided that nothing is changed outside the folder. -/
theorem disk_inFolder {α : Type} {limits : RunLimits} {use : String → Action Machine EngineFault α}
    (confined : ∀ base folder location, FreshFolder base folder location →
      Keeps (Elsewhere base location) (use folder)) (m : Machine) (tree : (rooted limits m.disk).IsTree) :
    (inFolder backend limits use m).2.disk = rooted limits m.disk := by
  unfold inFolder
  obtain ⟨fault, after, failed, same⟩ | ⟨path, location, after, opened, fresh, same⟩ :=
    @openFolder_cases backend limits m tree
  · rw [bind_of_error failed]
    exact same
  · rw [bind_of_ok opened]
    exact elsewhere_restored fresh (confined _ path location fresh after same)

theorem descends_programFile (engine : Engine) : Path.Descends engine.programFile := by
  cases engine <;> decide +revert

theorem disk_runScript [Json.Numerals] (evaluate : Evaluator) (settings : RunSettings) (tabular : Bool) (task : Task)
    (source : String) (relations : Relations) {m : Machine}
    (tree : (rooted settings.execution m.disk).IsTree) :
    (runScript evaluate settings tabular task source relations m).2.disk =
      rooted settings.execution m.disk := by
  refine disk_inFolder (fun base folder location fresh => ?_) m tree
  exact (keeps_writeFile fresh (descends_programFile _) _).bind fun _ _ =>
    (keeps_writeFile fresh (by decide) _).bind fun _ _ =>
    (keeps_writeFile fresh (by decide) _).bind fun _ _ =>
    (keeps_start fresh evaluate _ _ _).bind fun _ _ => keeps_readResult folder

theorem disk_runRules (evaluate : Evaluator) (settings : RunSettings) (task : Task)
    (source : String) {relations : Relations} {m : Machine}
    (down : ∀ entry ∈ Logic.inputs relations, Path.Descends (Logic.factFile entry.1))
    (tree : (rooted settings.execution m.disk).IsTree) :
    (runRules evaluate settings task source relations m).2.disk =
      rooted settings.execution m.disk := by
  refine disk_inFolder (fun base folder location fresh => ?_) m tree
  exact (keeps_writeFacts fresh down).bind fun _ _ =>
    (keeps_writeFile fresh (descends_programFile _) _).bind fun _ _ =>
    (keeps_start fresh evaluate _ _ _).bind fun _ _ => keeps_readAnswer folder task

def files (engine : Engine) (relations : Relations) : List String :=
  match engine with
  | .interpreter _ => [engine.programFile, Interpreter.loaderFile, Interpreter.inputFile]
  | .relational => []
  | .logic => (Logic.inputs relations).map (fun entry => Logic.factFile entry.1) ++ [engine.programFile]

theorem descends_of_mem_files {engine : Engine} {relations : Relations}
    (down : engine = .logic → ∀ entry ∈ Logic.inputs relations, Path.Descends (Logic.factFile entry.1)) :
    ∀ name ∈ files engine relations, Path.Descends name := by
  cases engine with
  | interpreter tabular =>
    simp only [files, List.forall_mem_cons]
    exact ⟨descends_programFile _, by decide, by decide, by simp⟩
  | relational => simp [files]
  | logic =>
    intro name mem
    rcases List.mem_append.1 mem with mem | mem
    · obtain ⟨entry, input, rfl⟩ := List.mem_map.1 mem
      exact down rfl entry input
    · cases List.mem_singleton.1 mem
      exact descends_programFile .logic

/-- The disk is as it was, but for folders on the way to the one in which folders of runs are made. -/
def Restored (settings : RunSettings) (before after : Disk) : Prop :=
  after = before ∨ ∃ root, settings.execution.workRoot = some root ∧
    before.GainsFolders after (before.start root) ((Path.names root).filter (· ≠ "."))

theorem rooted_restored (settings : RunSettings) {m : Machine} (tree : m.disk.IsTree) :
    (rooted settings.execution m.disk).IsTree ∧
      Restored settings m.disk (rooted settings.execution m.disk) := by
  unfold rooted
  cases named : settings.execution.workRoot with
  | none => exact ⟨tree, .inl rfl⟩
  | some root =>
    have made := ensureFolder_extends tree root
    exact ⟨made.tree, .inr ⟨root, named, made.gains⟩⟩

end Run

end SolutionCheck
