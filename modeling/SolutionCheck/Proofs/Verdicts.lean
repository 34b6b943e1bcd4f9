import SolutionCheck.Image
import SolutionCheck.Proofs.Acceptance
import SolutionCheck.Proofs.Result
import SolutionCheck.Proofs.Stages

/-!
Verdicts on submissions and the exit status they give. Every submission has one outcome, in the order of
the submissions, and an outcome tells what became of its submission on the machine which the earlier ones
left, as long as no comparison panics. Once the log is started the status is 2 exactly where something could
not be loaded, and then there is no verdict.
-/

namespace SolutionCheck

section

variable [Sorting] {x y : Answer}

theorem verify_eq_ok {both : Match} (accepted : verify x y = .ok both) :
    both.expected.Rearranges x.toTable ∧ both.actual.Rearranges y.toTable := by
  unfold verify at accepted
  rcases compared : compareTables x.toTable y.toTable with _ | ⟨expected, actual, _ | reason⟩ <;>
    rw [compared] at accepted <;> cases accepted
  exact compareTables_rearranges compared

theorem verify_eq_rejected {rejection : Rejection} (rejected : verify x y = .error (.rejected rejection)) :
    rejection.expected.Rearranges x.toTable ∧ rejection.actual.Rearranges y.toTable := by
  unfold verify at rejected
  rcases compared : compareTables x.toTable y.toTable with _ | ⟨expected, actual, _ | reason⟩ <;>
    rw [compared] at rejected <;> cases rejected
  exact compareTables_rearranges compared

end

namespace Verification

variable [Json.Numerals]

section

variable [Sorting]

/-- An outcome tells what becomes of a submission on a machine. It has the tables that were compared, if
any, and a message unless the submission passes. -/
structure Describes (setup : Setup) (task : Task) (entry : Entry) (m : Machine) (outcome : Outcome) :
    Prop where
  program : outcome.program = entry.label
  language : outcome.language = entry.submission.language
  pass : outcome.verdict = .pass ↔ entry.submission.fault? setup.catalog = none ∧
    ∃ answer, (Run.run setup task entry.submission m).1 = .ok answer ∧
      checkEquals task.expected answer = .ok ()
  fail : outcome.verdict = .fail ↔ entry.submission.fault? setup.catalog = none ∧
    ∃ answer, (Run.run setup task entry.submission m).1 = .ok answer ∧
      ∃ rejection, checkEquals task.expected answer = .error (.rejected rejection)
  message : outcome.message = none ↔ outcome.verdict = .pass
  compared : outcome.verdict ≠ .error → ∃ answer expected actual,
    (Run.run setup task entry.submission m).1 = .ok answer ∧
    outcome.expected = some expected ∧ expected.Rearranges task.expected.toTable ∧
    outcome.actual = some actual ∧ actual.Rearranges answer.toTable
  bare : outcome.verdict = .error → outcome.expected = none ∧ outcome.actual = none

/-- The submission gives an answer, and the comparison of the answer panics. -/
def Panics (setup : Setup) (task : Task) (entry : Entry) (m : Machine) : Prop :=
  entry.submission.fault? setup.catalog = none ∧
    ∃ answer, (Run.run setup task entry.submission m).1 = .ok answer ∧
      checkEquals task.expected answer = .error .panicked

variable {setup : Setup} {task : Task} {entry : Entry} {m : Machine}

theorem Panics.bridged (panics : Panics setup task entry m) :
    ∃ answer, (Run.run setup task entry.submission m).1 = .ok answer ∧
      ∃ key ∈ task.expected.toTable.columns.head?,
        Bridged (task.expected.toTable.cellsUnder key) ∨ Bridged (answer.toTable.cellsUnder key) := by
  obtain ⟨-, answer, ran, panicked⟩ := panics
  exact ⟨answer, ran, bridged_of_compareTables_eq_none ((checkEquals_eq_panicked_iff _ _).1 panicked)⟩

theorem describes_errorOutcome (message : String)
    (noAnswer : entry.submission.fault? setup.catalog = none →
      ∀ answer, (Run.run setup task entry.submission m).1 ≠ .ok answer) :
    Describes setup task entry m (errorOutcome entry message) where
  program := rfl
  language := rfl
  pass := by
    refine ⟨(by cases ·), ?_⟩
    rintro ⟨fit, answer, ran, -⟩
    exact absurd ran (noAnswer fit answer)
  fail := by
    refine ⟨(by cases ·), ?_⟩
    rintro ⟨fit, answer, ran, -⟩
    exact absurd ran (noAnswer fit answer)
  message := by simp [errorOutcome]
  compared other := absurd rfl other
  bare _ := ⟨rfl, rfl⟩

section

variable {answer : Answer} (fit : entry.submission.fault? setup.catalog = none)
  (ran : (Run.run setup task entry.submission m).1 = .ok answer) {outcome : Outcome}

include fit ran

theorem describes_of_accepted {both : Match} (judged : verify task.expected answer = .ok both)
    (told : outcomeOf entry (.ok both) = some outcome) : Describes setup task entry m outcome := by
  cases told
  exact {
    program := rfl
    language := rfl
    pass := ⟨fun _ => ⟨fit, answer, ran, by rw [checkEquals, judged]; rfl⟩, fun _ => rfl⟩
    fail := by
      refine ⟨(by cases ·), ?_⟩
      rintro ⟨-, other, found, rejection, rejected⟩
      cases Except.ok.inj (ran.symm.trans found)
      cases judged.symm.trans ((checkEquals_eq_error_iff _ _ _).1 rejected)
    message := ⟨fun _ => rfl, fun _ => rfl⟩
    compared _ := by
      obtain ⟨left, right⟩ := verify_eq_ok judged
      exact ⟨answer, both.expected, both.actual, ran, rfl, left, rfl, right⟩
    bare other := by cases other }

theorem describes_of_rejected {rejection : Rejection}
    (judged : verify task.expected answer = .error (.rejected rejection))
    (told : outcomeOf entry (.error (.refused (.rejected rejection))) = some outcome) :
    Describes setup task entry m outcome := by
  have rejected := (checkEquals_eq_error_iff _ _ _).2 judged
  cases told
  exact {
    program := rfl
    language := rfl
    pass := by
      refine ⟨(by cases ·), ?_⟩
      rintro ⟨-, other, found, accepted⟩
      cases Except.ok.inj (ran.symm.trans found)
      cases accepted.symm.trans rejected
    fail := ⟨fun _ => ⟨fit, answer, ran, rejection, rejected⟩, fun _ => rfl⟩
    message := by simp
    compared _ := by
      obtain ⟨left, right⟩ := verify_eq_rejected judged
      exact ⟨answer, rejection.expected, rejection.actual, ran, rfl, left, rfl, right⟩
    bare other := by cases other }

end

theorem checkEntry_of_unfit {fault : SubmissionFault} (unfit : entry.submission.fault? setup.catalog = some fault) :
    (checkEntry setup task entry m).1 = some (errorOutcome entry fault.message) := by
  rw [checkEntry, unfit]

theorem checkEntry_of_fit (fit : entry.submission.fault? setup.catalog = none) :
    (checkEntry setup task entry m).1 = outcomeOf entry (Run.check setup task entry.submission m).1 := by
  rw [checkEntry, fit]

theorem check_of_ran {answer : Answer} (ran : (Run.run setup task entry.submission m).1 = .ok answer) :
    (Run.check setup task entry.submission m).1 = (verify task.expected answer).mapError .refused := by
  unfold Run.check
  rcases same : Run.run setup task entry.submission m with ⟨_ | other, after⟩ <;> rw [same] at ran <;> cases ran
  rfl

theorem checkEntry_describes (setup : Setup) (task : Task) (entry : Entry) (m : Machine) :
    (∀ outcome, (checkEntry setup task entry m).1 = some outcome → Describes setup task entry m outcome) ∧
    ((checkEntry setup task entry m).1 = none → Panics setup task entry m) := by
  cases fit : entry.submission.fault? setup.catalog with
  | some fault =>
    rw [checkEntry_of_unfit fit]
    refine ⟨fun outcome told => ?_, fun none => by cases none⟩
    cases told
    exact describes_errorOutcome _ fun none => by cases fit.symm.trans none
  | none =>
    rw [checkEntry_of_fit fit]
    cases ran : (Run.run setup task entry.submission m).1 with
    | error fault =>
      rw [(Run.check_eq_notRun_iff setup task entry.submission m fault).2 ran]
      refine ⟨fun outcome told => ?_, fun none => by cases none⟩
      cases told
      exact describes_errorOutcome _ fun _ answer found => by cases ran.symm.trans found
    | ok answer =>
      rw [check_of_ran ran]
      cases judged : verify task.expected answer with
      | ok both => exact ⟨fun _ => describes_of_accepted fit ran judged, fun none => by cases none⟩
      | error refusal =>
        cases refusal with
        | rejected rejection => exact ⟨fun _ => describes_of_rejected fit ran judged, fun none => by cases none⟩
        | panicked =>
          refine ⟨fun outcome told => ?_, fun _ => ?_⟩
          · cases told
          · exact ⟨fit, answer, ran, (checkEquals_eq_error_iff _ _ _).2 judged⟩

theorem checkEntries_cons_of_some {outcome : Outcome} (told : (checkEntry setup task entry m).1 = some outcome)
    (rest : List Entry) : checkEntries setup task (entry :: rest) m =
      ((checkEntries setup task rest (checkEntry setup task entry m).2).1.map (outcome :: ·),
      (checkEntries setup task rest (checkEntry setup task entry m).2).2) := by
  rcases checked : checkEntry setup task entry m with ⟨_, after⟩
  rw [checked] at told
  cases told
  rw [checkEntries, checked]

/-- Every submission has its outcome, which tells what becomes of it after the earlier ones, where no
comparison panics. -/
theorem checkEntries_describes (setup : Setup) (task : Task) (entries : List Entry) (m : Machine)
    (calm : ∀ i entry, entries[i]? = some entry →
      ¬ Panics setup task entry (checkEntries setup task (entries.take i) m).2) :
    ∃ outcomes, (checkEntries setup task entries m).1 = some outcomes ∧ outcomes.length = entries.length ∧
      ∀ i entry, entries[i]? = some entry → ∃ outcome, outcomes[i]? = some outcome ∧
        Describes setup task entry (checkEntries setup task (entries.take i) m).2 outcome := by
  induction entries generalizing m with
  | nil => exact ⟨[], rfl, rfl, fun i entry found => by simp at found⟩
  | cons first rest ih =>
    obtain ⟨described, panics⟩ := checkEntry_describes setup task first m
    obtain ⟨outcome, told⟩ := Option.ne_none_iff_exists'.1 fun none => calm 0 first rfl (panics none)
    have later (i : Nat) : (checkEntries setup task ((first :: rest).take (i + 1)) m).2 =
        (checkEntries setup task (rest.take i) (checkEntry setup task first m).2).2 :=
      congrArg (·.2) (checkEntries_cons_of_some told (rest.take i))
    obtain ⟨outcomes, all, size, each⟩ := ih (checkEntry setup task first m).2 fun i entry found => by
      rw [← later]
      exact calm (i + 1) entry found
    refine ⟨outcome :: outcomes, ?_, congrArg Nat.succ size, fun i entry found => ?_⟩
    · rw [checkEntries_cons_of_some told, all]
      rfl
    · cases i with
      | zero =>
        cases Option.some.inj found
        exact ⟨outcome, rfl, described outcome told⟩
      | succ i =>
        rw [later]
        exact each i entry found

end

def programFiles (disk : Disk) (layout : Layout) (taskId : String) (paths : List String) : List String :=
  if paths.isEmpty then
    let folder := layout.submissionFolder taskId
    let names := (disk.listFolder folder).toOption.getD []
    (names.filter fun name => Path.extension? name = some "json").map (Path.join folder)
  else paths

theorem submissions_of_file {disk : Disk} {layout : Layout} {taskId : String}
    (taken : disk.isFile (layout.submissionFolder taskId) = true) :
    Store.submissions disk layout taskId = .error (.unreadableFolder (layout.submissionFolder taskId)) := by
  unfold Disk.isFile at taken
  unfold Store.submissions Disk.contains Disk.listFolder
  split at taken
  · next location text found => simp [found, bind, Except.bind, Except.mapError]
  · cases taken

theorem submissions_of_not_file {disk : Disk} {layout : Layout} {taskId : String}
    (free : disk.isFile (layout.submissionFolder taskId) = false) :
    Store.submissions disk layout taskId =
      (programFiles disk layout taskId []).mapM (Store.submissionAt disk) := by
  unfold Disk.isFile at free
  unfold Store.submissions programFiles Disk.contains Disk.listFolder
  simp only [List.isEmpty_nil, if_true]
  rcases found : disk.find (layout.submissionFolder taskId) with fault | ⟨location, text | _⟩
  · rfl
  · simp [found] at free
  · simp [bind, Except.bind, Except.mapError, Except.toOption, List.mapM_map]
    rfl

theorem entryAt_eq_ok {disk : Disk} {path : String} {entry : Entry} (found : entryAt disk path = .ok entry) :
    Store.submissionAt disk path = .ok entry.submission := by
  obtain ⟨submission, read, same⟩ := bind_eq_ok found
  cases same
  exact read

theorem entryAt_eq_error_iff (disk : Disk) (path : String) :
    (∃ fault, entryAt disk path = .error fault) ↔
      ∃ fault, Store.submissionAt disk path = .error fault := by
  unfold entryAt
  cases Store.submissionAt disk path <;> simp [bind, Except.bind, pure, Except.pure]

theorem entries_eq_error_iff (disk : Disk) (layout : Layout) (taskId : String) (paths : List String) :
    (∃ fault, entries disk layout taskId paths = .error fault) ↔
      (∃ path ∈ programFiles disk layout taskId paths, ∃ fault,
        Store.submissionAt disk path = .error fault) ∨
      paths = [] ∧ disk.isFile (layout.submissionFolder taskId) = true := by
  cases paths with
  | cons path rest =>
    have named : entries disk layout taskId (path :: rest) = (path :: rest).mapM (entryAt disk) := rfl
    rw [named, mapM_eq_error_iff]
    simp only [entryAt_eq_error_iff, reduceCtorEq, false_and, or_false]
    rfl
  | nil =>
    have stored : entries disk layout taskId [] =
        (Store.submissions disk layout taskId).map fun found => found.map fun s => ⟨s.fileName, s⟩ := rfl
    have failed : (∃ fault, entries disk layout taskId [] = .error fault) ↔
        ∃ fault, Store.submissions disk layout taskId = .error fault := by
      rw [stored]
      cases Store.submissions disk layout taskId <;> simp [Except.map]
    rw [failed]
    cases taken : disk.isFile (layout.submissionFolder taskId) with
    | true => simp [submissions_of_file taken]
    | false => simp [submissions_of_not_file taken, mapM_eq_error_iff]

theorem entries_eq_ok {disk : Disk} {layout : Layout} {taskId : String} {paths : List String}
    {found : List Entry} (loaded : entries disk layout taskId paths = .ok found) :
    List.Forall₂ (fun path entry => Store.submissionAt disk path = .ok entry.submission)
      (programFiles disk layout taskId paths) found := by
  cases paths with
  | cons path rest =>
    have named : (path :: rest).mapM (entryAt disk) = .ok found := loaded
    exact (mapM_eq_ok_iff.1 named).imp fun _ _ => entryAt_eq_ok
  | nil =>
    have stored : (Store.submissions disk layout taskId).map (fun read => read.map fun s =>
        (⟨s.fileName, s⟩ : Entry)) = .ok found := loaded
    obtain ⟨submissions, read, rfl⟩ := map_eq_ok stored
    cases taken : disk.isFile (layout.submissionFolder taskId) with
    | true =>
      rw [submissions_of_file taken] at read
      cases read
    | false =>
      rw [submissions_of_not_file taken] at read
      rw [List.forall₂_map_right_iff]
      exact mapM_eq_ok_iff.1 read

theorem verifyTask_eq [Sorting] (setup : Setup) (settings : Settings) (taskId : String) (paths : List String)
    (m : Machine) : verifyTask setup settings taskId paths m =
      match Store.usableTask m.disk (.ofSettings settings m.disk) taskId with
      | .error fault => (.error (.notLoaded fault), m)
      | .ok task =>
        match entries m.disk (.ofSettings settings m.disk) taskId paths with
        | .error fault => (.error (.notLoaded fault), m)
        | .ok found => (.ok (checkEntries setup task found m).1, (checkEntries setup task found m).2) := by
  unfold verifyTask
  dsimp only
  cases Store.usableTask m.disk (.ofSettings settings m.disk) taskId with
  | error fault => rfl
  | ok task => cases entries m.disk (.ofSettings settings m.disk) taskId paths <;> rfl

theorem usableTask_eq_error_iff (disk : Disk) (layout : Layout) (taskId : String) :
    (∃ fault, Store.usableTask disk layout taskId = .error fault) ↔
      (∃ fault, Store.task disk layout taskId = .error fault) ∨
      ∃ task, Store.task disk layout taskId = .ok task ∧ ∃ fault, task.fault? = some fault := by
  unfold Store.usableTask
  cases read : Store.task disk layout taskId with
  | error fault => simp [bind, Except.bind]
  | ok task => cases unusable : task.fault? <;> simp [bind, Except.bind, unusable]

inductive Unloadable (settings : Settings) (disk : Disk) (taskId : String) (paths : List String) : Prop
  | catalog (fault : StoreFault) (failed : Store.catalog disk settings = .error fault)
  | runSettings (fault : StoreFault) (failed : Store.runSettings disk settings = .error fault)
  | task (fault : StoreFault) (failed : Store.task disk (.ofSettings settings disk) taskId = .error fault)
  | unusableTask (task : Task) (loaded : Store.task disk (.ofSettings settings disk) taskId = .ok task)
      (fault : TaskFault) (unusable : task.fault? = some fault)
  | program (path : String) (mem : path ∈ programFiles disk (.ofSettings settings disk) taskId paths)
      (fault : StoreFault) (failed : Store.submissionAt disk path = .error fault)
  /-- no file is named, and one stands where the folder of the stored submissions should be -/
  | folder (unnamed : paths = [])
      (taken : disk.isFile ((Layout.ofSettings settings disk).submissionFolder taskId) = true)

theorem loadSetup_eq_error_iff (settings : Settings) (outside : CommandLine.Outside) (disk : Disk) :
    (∃ fault, CommandLine.loadSetup settings outside disk = .error fault) ↔
      (∃ fault, Store.catalog disk settings = .error fault) ∨
      ∃ fault, Store.runSettings disk settings = .error fault := by
  unfold CommandLine.loadSetup
  cases Store.catalog disk settings <;> cases Store.runSettings disk settings <;> simp

theorem unloadable_iff (settings : Settings) (outside : CommandLine.Outside) (disk : Disk) (taskId : String)
    (paths : List String) : Unloadable settings disk taskId paths ↔
      (∃ fault, CommandLine.loadSetup settings outside disk = .error fault) ∨
      (∃ fault, Store.usableTask disk (.ofSettings settings disk) taskId = .error fault) ∨
      ∃ fault, entries disk (.ofSettings settings disk) taskId paths = .error fault := by
  rw [loadSetup_eq_error_iff, usableTask_eq_error_iff, entries_eq_error_iff]
  constructor
  · intro unloadable
    cases unloadable with
    | catalog fault failed => exact .inl (.inl ⟨fault, failed⟩)
    | runSettings fault failed => exact .inl (.inr ⟨fault, failed⟩)
    | task fault failed => exact .inr (.inl (.inl ⟨fault, failed⟩))
    | unusableTask task loaded fault unusable =>
      exact .inr (.inl (.inr ⟨task, loaded, fault, unusable⟩))
    | program path mem fault failed => exact .inr (.inr (.inl ⟨path, mem, fault, failed⟩))
    | folder unnamed taken => exact .inr (.inr (.inr ⟨unnamed, taken⟩))
  · rintro ((⟨fault, failed⟩ | ⟨fault, failed⟩) | (⟨fault, failed⟩ | ⟨task, loaded, fault, unusable⟩) |
      ⟨path, mem, fault, failed⟩ | ⟨unnamed, taken⟩)
    · exact .catalog fault failed
    · exact .runSettings fault failed
    · exact .task fault failed
    · exact .unusableTask task loaded fault unusable
    · exact .program path mem fault failed
    · exact .folder unnamed taken

theorem exists_loaded_of_not_unloadable {settings : Settings} (outside : CommandLine.Outside) {disk : Disk}
    {taskId : String} {paths : List String} (loadable : ¬ Unloadable settings disk taskId paths) :
    ∃ setup task found, CommandLine.loadSetup settings outside disk = .ok setup ∧
      Store.usableTask disk (.ofSettings settings disk) taskId = .ok task ∧
      entries disk (.ofSettings settings disk) taskId paths = .ok found := by
  rw [unloadable_iff settings outside, not_or, not_or] at loadable
  obtain ⟨ready, usable, loaded⟩ := loadable
  obtain ⟨setup, ready⟩ := exists_eq_ok ready
  obtain ⟨task, usable⟩ := exists_eq_ok usable
  obtain ⟨found, loaded⟩ := exists_eq_ok loaded
  exact ⟨setup, task, found, ready, usable, loaded⟩

end Verification

namespace CommandLine

open Verification

section

variable [Json.Numerals] [Sorting] {settings : Settings} {outside : Outside} {m : Machine} {taskId : String}
  {paths : List String} (verbose : Bool) (format : Format)

theorem perform_verify_of_loaded {setup : Setup} {task : Task} {found : List Verification.Entry}
    (ready : loadSetup settings outside m.disk = .ok setup)
    (usable : Store.usableTask m.disk (.ofSettings settings m.disk) taskId = .ok task)
    (loaded : entries m.disk (.ofSettings settings m.disk) taskId paths = .ok found) :
    (perform settings outside ⟨.verify taskId paths verbose, format⟩ m).1 =
      conclude format verbose (checkEntries setup task found m).1 := by
  simp only [perform, answer, withSetup, ready, verifyTask_eq, usable, loaded]

theorem perform_verify_of_unloadable (unloadable : Unloadable settings m.disk taskId paths) :
    ∃ fault, (perform settings outside ⟨.verify taskId paths verbose, format⟩ m).1 =
      .responded (.ofFault fault) := by
  unfold perform answer withSetup
  dsimp only
  cases ready : loadSetup settings outside m.disk with
  | error fault => exact ⟨_, rfl⟩
  | ok setup =>
    simp only [verifyTask_eq]
    cases usable : Store.usableTask m.disk (.ofSettings settings m.disk) taskId with
    | error fault => exact ⟨_, rfl⟩
    | ok task =>
      cases loaded : entries m.disk (.ofSettings settings m.disk) taskId paths with
      | error fault => exact ⟨_, rfl⟩
      | ok found =>
        rw [unloadable_iff settings outside, ready, usable, loaded] at unloadable
        simp at unloadable

end

theorem status_respond (format : Format) (verbose : Bool) (outcomes : List Outcome) :
    ((respond format verbose outcomes).status = 0 ↔ ∀ o ∈ outcomes, o.verdict = .pass) ∧
    ((respond format verbose outcomes).status = 1 ↔ ∃ o ∈ outcomes, o.verdict ≠ .pass) := by
  have all : outcomes.all Outcome.passed = true ↔ ∀ o ∈ outcomes, o.verdict = .pass := by
    simp [Outcome.passed]
  have some : (∃ o ∈ outcomes, o.verdict ≠ .pass) ↔ ¬ outcomes.all Outcome.passed = true := by
    rw [all]
    push Not
    rfl
  rw [some, ← all, respond]
  cases outcomes.all Outcome.passed <;> simp

theorem status_conclude_ne_two (format : Format) (verbose : Bool) (outcomes : Option (List Outcome)) :
    (conclude format verbose outcomes).status ≠ 2 := by
  cases outcomes with
  | none => exact (by decide : (101 : Nat) ≠ 2)
  | some outcomes =>
    change (if outcomes.all Outcome.passed then 0 else 1) ≠ 2
    split <;> decide

end CommandLine

end SolutionCheck
