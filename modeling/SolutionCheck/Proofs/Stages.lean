import SolutionCheck.Run
import SolutionCheck.Sql.Database
import SolutionCheck.Proofs.Action
import SolutionCheck.Proofs.Keyed
import SolutionCheck.Proofs.Result

/-!
The stages of a run. An unknown language is reported before the sample input is looked at, and a
malformed sample input before an engine runs; neither leaves a trace on the machine. What is left is the
answer or a fault of the engine to which the language is dispatched, under the name of that engine wherever
the fault came up; and the verdict on an answer adds nothing but its refusal.
-/

namespace SolutionCheck

theorem Catalog.get?_eq_none_iff (catalog : Catalog) (id : String) :
    catalog.get? id = none ↔ id ∉ catalog.byId.keys :=
  Keyed.get?_eq_none_iff catalog.byId id

theorem Catalog.mem_keys_of_get? {catalog : Catalog} {id : String} {language : Language}
    (known : catalog.get? id = some language) : id ∈ catalog.byId.keys := by
  by_contra unknown
  rw [(catalog.get?_eq_none_iff id).2 unknown] at known
  cases known

theorem Language.label_engine (language : Language) : language.engine.label = language.family.name := by
  unfold engine
  cases language.family <;> rfl

theorem checkEquals_eq_error_iff [Sorting] (x y : Answer) (refusal : Refusal) :
    checkEquals x y = .error refusal ↔ verify x y = .error refusal := by
  rw [checkEquals]
  cases verify x y <;> simp [Except.map]

namespace Run

section Names

open SolutionCheck.Action

variable {backend : String}

def Named (backend : String) (fault : EngineFault) : Prop := fault.backend = backend

theorem blames_ensureWorkRoot (limits : RunLimits) : (ensureWorkRoot backend limits).Blames (Named backend) := by
  unfold ensureWorkRoot
  cases limits.workRoot with
  | none => exact blames_pure ()
  | some root =>
    refine blames_attempt fun disk fault failed => ?_
    obtain ⟨cause, -, rfl⟩ := Option.map_eq_some_iff.1 failed
    rfl

theorem blames_openFolder (limits : RunLimits) : (openFolder backend limits).Blames (Named backend) := by
  refine (blames_ensureWorkRoot limits).bind fun _ _ => (blames_look _).bind fun path _ =>
    (blames_change fun disk fault failed => ?_).bind fun _ _ => blames_pure path
  obtain ⟨cause, -, rfl⟩ := mapError_eq_error failed
  rfl

theorem blames_inFolder {α : Type} (limits : RunLimits) {use : String → Action Machine EngineFault α}
    (inside : ∀ folder, (use folder).Blames (Named backend)) :
    (inFolder backend limits use).Blames (Named backend) :=
  (blames_openFolder limits).bind fun path _ m fault failed => inside path m fault failed

theorem blames_writeFile (folder name text : String) : (writeFile backend folder name text).Blames (Named backend) := by
  refine blames_change fun disk fault failed => ?_
  obtain ⟨cause, -, rfl⟩ := mapError_eq_error failed
  rfl

theorem blames_start (evaluate : Evaluator) (limits : RunLimits) (program : String) (arguments : List String)
    (folder : String) : (start backend evaluate limits program arguments folder).Blames (Named backend) := by
  intro m fault failed
  unfold start at failed
  dsimp only at failed
  split at failed
  · cases failed
    rfl
  · split at failed
    · cases failed
      rfl
    · cases failed
      rfl
    · split at failed
      · cases failed
      · cases failed
        rfl

theorem blames_mapError {ε α : Type} (result : Except ε α) (report : ε → Diagnostic) :
    (ofExcept (result.mapError fun cause => ⟨backend, report cause⟩) : Action Machine EngineFault α).Blames
      (Named backend) :=
  blames_ofExcept fun fault failed => by
    obtain ⟨cause, -, rfl⟩ := mapError_eq_error failed
    rfl

theorem blames_runScript [Json.Numerals] (evaluate : Evaluator) (settings : RunSettings) (tabular : Bool) (task : Task)
    (source : String) (relations : Relations) :
    (runScript evaluate settings tabular task source relations).Blames (Named Interpreter.backend) := by
  refine blames_inFolder _ fun folder => (blames_writeFile _ _ _).bind fun _ _ => (blames_writeFile _ _ _).bind fun _ _ =>
    (blames_writeFile _ _ _).bind fun _ _ => (blames_start _ _ _ _ _).bind fun _ _ => ?_
  exact (blames_look _).bind fun read _ => (blames_mapError _ _).bind fun text _ => blames_mapError _ _

theorem blames_writeFacts (folder : String) (inputs : List (String × Table)) :
    (writeFacts folder inputs).Blames (Named Logic.backend) := by
  induction inputs with
  | nil => exact blames_pure ()
  | cons entry rest ih =>
    exact (blames_mapError _ _).bind fun text _ => (blames_writeFile _ _ _).bind fun _ _ => ih

theorem named_answerText {path : String} {disk : Disk} {fault : EngineFault}
    (failed : answerText path disk = .error fault) : Named Logic.backend fault := by
  unfold answerText at failed
  split at failed
  · cases failed
  · cases failed
  · cases failed
    rfl

theorem blames_runRules (evaluate : Evaluator) (settings : RunSettings) (task : Task) (source : String)
    (relations : Relations) : (runRules evaluate settings task source relations).Blames (Named Logic.backend) := by
  refine blames_inFolder _ fun folder => (blames_writeFacts folder _).bind fun _ _ => (blames_writeFile _ _ _).bind fun _ _ =>
    (blames_start _ _ _ _ _).bind fun _ _ => ?_
  refine (blames_look _).bind fun read given => (blames_ofExcept fun fault failed => ?_).bind fun text _ =>
    (blames_mapError _ _).bind fun t _ => blames_pure _
  obtain ⟨disk, rfl⟩ := exists_of_look_gives given
  exact named_answerText failed

/-- Every fault of an engine carries the label of the engine. -/
theorem blames_runEngine [Json.Numerals] (setup : Setup) (engine : Engine) (task : Task) (source : String)
    (relations : Relations) : (runEngine setup engine task source relations).Blames (Named engine.label) := by
  cases engine with
  | interpreter tabular => exact blames_runScript _ _ _ _ _ _
  | relational =>
    intro m fault failed
    unfold runEngine Relational.runQuery at failed
    dsimp only at failed
    split at failed
    · cases failed
      rfl
    · obtain ⟨cause, -, rfl⟩ := mapError_eq_error failed
      rfl
  | logic => exact blames_runRules _ _ _ _ _

end Names

variable [Json.Numerals]

inductive Ending (setup : Setup) (task : Task) (submission : Submission) (m : Machine) :
    Except RunFault Answer × Machine → Prop
  | unsupported (unknown : submission.language ∉ setup.catalog.byId.keys) :
      Ending setup task submission m (.error (.unsupportedLanguage submission.language), m)
  | malformed (known : submission.language ∈ setup.catalog.byId.keys) (fault : SampleFault)
      (malformed : task.sampleInput.materialize = .error fault) :
      Ending setup task submission m (.error (.malformedSample fault), m)
  | failed (language : Language) (known : setup.catalog.get? submission.language = some language)
      (relations : Relations) (fit : task.sampleInput.materialize = .ok relations)
      (fault : EngineFault) (after : Machine)
      (ran : runEngine setup language.engine task submission.source relations m = (.error fault, after)) :
      Ending setup task submission m (.error (.engineFailed fault), after)
  | answered (language : Language) (known : setup.catalog.get? submission.language = some language)
      (relations : Relations) (fit : task.sampleInput.materialize = .ok relations)
      (answer : Answer) (after : Machine)
      (ran : runEngine setup language.engine task submission.source relations m = (.ok answer, after)) :
      Ending setup task submission m (.ok answer, after)

theorem run_ending (setup : Setup) (task : Task) (submission : Submission) (m : Machine) :
    Ending setup task submission m (run setup task submission m) := by
  unfold run Catalog.engine?
  cases known : setup.catalog.get? submission.language with
  | none => exact .unsupported ((Catalog.get?_eq_none_iff _ _).1 known)
  | some language =>
    simp only [Option.map_some]
    cases made : task.sampleInput.materialize with
    | error fault => exact .malformed (Catalog.mem_keys_of_get? known) fault made
    | ok relations =>
      simp only
      rcases ran : runEngine setup language.engine task submission.source relations m with
        ⟨fault | answer, after⟩
      · exact .failed language known relations made fault after ran
      · exact .answered language known relations made answer after ran

theorem run_eq_unsupported_iff (setup : Setup) (task : Task) (submission : Submission) (m : Machine)
    (id : String) : (run setup task submission m).1 = .error (.unsupportedLanguage id) ↔
      id = submission.language ∧ submission.language ∉ setup.catalog.byId.keys := by
  have ending := run_ending setup task submission m
  generalize run setup task submission m = result at ending
  cases ending with
  | unsupported unknown => simp [unknown, eq_comm]
  | malformed known => simp [known]
  | failed _ known => simp [Catalog.mem_keys_of_get? known]
  | answered _ known => simp [Catalog.mem_keys_of_get? known]

theorem run_eq_malformed_iff (setup : Setup) (task : Task) (submission : Submission) (m : Machine)
    (fault : SampleFault) : (run setup task submission m).1 = .error (.malformedSample fault) ↔
      submission.language ∈ setup.catalog.byId.keys ∧ task.sampleInput.materialize = .error fault := by
  have ending := run_ending setup task submission m
  generalize run setup task submission m = result at ending
  cases ending with
  | unsupported unknown => simp [unknown]
  | malformed known _ malformed => simp [known, malformed]
  | failed _ _ _ fit => simp [fit]
  | answered _ _ _ fit => simp [fit]

theorem machine_run_of_not_reached {setup : Setup} {task : Task} {submission : Submission} (m : Machine)
    (stopped : submission.language ∉ setup.catalog.byId.keys ∨
      ∃ fault, task.sampleInput.materialize = .error fault) :
    (run setup task submission m).2 = m := by
  have ending := run_ending setup task submission m
  generalize run setup task submission m = result at ending
  have notReached {language : Language} {relations : Relations}
      (known : setup.catalog.get? submission.language = some language)
      (fit : task.sampleInput.materialize = .ok relations) : False := by
    rcases stopped with unknown | ⟨fault, malformed⟩
    · exact unknown (Catalog.mem_keys_of_get? known)
    · cases fit.symm.trans malformed
  cases ending with
  | unsupported => rfl
  | malformed => rfl
  | failed _ known _ fit => exact (notReached known fit).elim
  | answered _ known _ fit => exact (notReached known fit).elim

theorem run_of_reached {setup : Setup} {task : Task} {submission : Submission} (m : Machine)
    {language : Language} (known : setup.catalog.get? submission.language = some language)
    {relations : Relations} (fit : task.sampleInput.materialize = .ok relations) :
    (∃ answer, (run setup task submission m).1 = .ok answer) ∨
      ∃ fault, (run setup task submission m).1 = .error (.engineFailed fault) ∧
        fault.backend = language.family.name := by
  have ending := run_ending setup task submission m
  generalize run setup task submission m = result at ending
  cases ending with
  | unsupported unknown => exact absurd (Catalog.mem_keys_of_get? known) unknown
  | malformed _ _ malformed => cases fit.symm.trans malformed
  | failed other found relations _ fault after ran =>
    cases Option.some.inj (found.symm.trans known)
    have named := blames_runEngine setup language.engine task submission.source relations m fault
      (congrArg Prod.fst ran)
    exact .inr ⟨fault, rfl, named.trans language.label_engine⟩
  | answered _ _ _ _ answer => exact .inl ⟨answer, rfl⟩

section Check

variable [Sorting]

theorem machine_check (setup : Setup) (task : Task) (submission : Submission) (m : Machine) :
    (check setup task submission m).2 = (run setup task submission m).2 := by
  unfold check
  rcases run setup task submission m with ⟨_ | _, after⟩ <;> rfl

theorem check_eq_notRun_iff (setup : Setup) (task : Task) (submission : Submission) (m : Machine)
    (fault : RunFault) : (check setup task submission m).1 = .error (.notRun fault) ↔
      (run setup task submission m).1 = .error fault := by
  unfold check
  rcases run setup task submission m with ⟨other | answer, after⟩
  · simp
  · cases judged : verify task.expected answer <;> simp [Except.mapError, judged]

theorem check_eq_refused_iff (setup : Setup) (task : Task) (submission : Submission) (m : Machine)
    (refusal : Refusal) : (check setup task submission m).1 = .error (.refused refusal) ↔
      ∃ answer, (run setup task submission m).1 = .ok answer ∧
        checkEquals task.expected answer = .error refusal := by
  simp only [checkEquals_eq_error_iff]
  unfold check
  rcases run setup task submission m with ⟨fault | answer, after⟩
  · simp
  · cases judged : verify task.expected answer <;> simp [Except.mapError, judged]

/-- An unknown language decides the result whatever else is wrong, and a malformed sample input decides it
next; in either case the machine stays as it was. Otherwise the result is an answer or a fault that carries the
label of the engine of the language. A check has the fault of the run, or refuses its answer, or accepts it. -/
theorem run_stages (setup : Setup) (task : Task) (submission : Submission) (m : Machine) :
    (∀ id, (run setup task submission m).1 = .error (.unsupportedLanguage id) ↔
      id = submission.language ∧ submission.language ∉ setup.catalog.byId.keys) ∧
    (∀ fault, (run setup task submission m).1 = .error (.malformedSample fault) ↔
      submission.language ∈ setup.catalog.byId.keys ∧ task.sampleInput.materialize = .error fault) ∧
    ((submission.language ∉ setup.catalog.byId.keys ∨
        ∃ fault, task.sampleInput.materialize = .error fault) →
      (run setup task submission m).2 = m ∧ (check setup task submission m).2 = m) ∧
    (∀ language relations, setup.catalog.get? submission.language = some language →
      task.sampleInput.materialize = .ok relations →
      (∃ answer, (run setup task submission m).1 = .ok answer) ∨
        ∃ fault, (run setup task submission m).1 = .error (.engineFailed fault) ∧
          fault.backend = language.family.name) ∧
    (∀ fault, (check setup task submission m).1 = .error (.notRun fault) ↔
      (run setup task submission m).1 = .error fault) ∧
    ∀ refusal, (check setup task submission m).1 = .error (.refused refusal) ↔
      ∃ answer, (run setup task submission m).1 = .ok answer ∧
        checkEquals task.expected answer = .error refusal := by
  refine ⟨run_eq_unsupported_iff setup task submission m, run_eq_malformed_iff setup task submission m,
    fun stopped => ?_, fun _ _ known fit => run_of_reached m known fit,
    check_eq_notRun_iff setup task submission m, check_eq_refused_iff setup task submission m⟩
  have untouched := machine_run_of_not_reached m stopped
  exact ⟨untouched, (machine_check setup task submission m).trans untouched⟩

end Check

omit [Json.Numerals] in
theorem run_stages_of_faults :
    letI := Json.Numerals.nearest
    letI := Sorting.guarded
    let uneven : Task := ⟨"t", "", "", [],
      .ofList [("p", [.ofList [("x", .int 1)], .ofList [("y", .int 2)]])], .null⟩
    let even : Task := ⟨"t", "", "", [], .ofList [("p", [.ofList [("x", .int 1)]])], .array [.int 2]⟩
    let unknown : Submission := .anonymous "t" "Python" ""
    let query : Submission := .anonymous "t" "sql" "SELECT x FROM p"
    let rules : Submission := .anonymous "t" "datalog" "t(x) :- p(x)."
    let setup : Setup := ⟨.standard, .standard, fun _ => .overran, Sql.Database.service⟩
    let m : Machine := ⟨⟨[(["tmp"], .folder)], []⟩, []⟩
    (run setup uneven unknown m).1 = .error (.unsupportedLanguage "Python") ∧
      (run setup uneven unknown m).2 = m ∧
      (check setup uneven query m).1 =
        .error (.notRun (.malformedSample ⟨"p", 1, ["y"], ["x"]⟩)) ∧ (check setup uneven query m).2 = m ∧
      (run setup even query m).1 = .ok (.sequence [.int 1]) ∧
      (∃ refusal, (check setup even query m).1 = .error (.refused refusal)) ∧
      ∃ fault, (run setup even rules m).1 = .error (.engineFailed fault) ∧ fault.backend = "logic" := by
  intro uneven even unknown query rules setup m
  obtain ⟨unsupported, -, untouched, -, -, -⟩ := @run_stages .nearest .guarded setup uneven unknown m
  obtain ⟨-, malformed, untouched', -, notRun, -⟩ := @run_stages .nearest .guarded setup uneven query m
  obtain ⟨-, -, -, -, -, refused⟩ := @run_stages .nearest .guarded setup even query m
  obtain ⟨-, -, -, reached, -, -⟩ := @run_stages .nearest .guarded setup even rules m
  have strange : unknown.language ∉ setup.catalog.byId.keys := by decide
  have broken : uneven.sampleInput.materialize = .error ⟨"p", 1, ["y"], ["x"]⟩ := by rfl
  have fit : even.sampleInput.materialize = .ok (.ofList [("p", ⟨["x"], [[.int 1]]⟩)]) := by rfl
  have ran : (@run .nearest setup even query m).1 = .ok (.sequence [.int 1]) := by decide +kernel
  have judged : ∃ refusal, @checkEquals .guarded even.expected (.sequence [.int 1]) = .error refusal := by
    cases judged : @checkEquals .guarded even.expected (.sequence [.int 1]) with
    | ok done =>
      have different : @checkEquals .guarded even.expected (.sequence [.int 1]) ≠ .ok () := by decide +kernel
      exact absurd judged different
    | error refusal => exact ⟨refusal, rfl⟩
  have failed : ¬ ∃ answer, (@run .nearest setup even rules m).1 = .ok answer := by
    rintro ⟨answer, answered⟩
    have fails : (@run .nearest setup even rules m).1.toOption = none := by decide +kernel
    rw [answered] at fails
    cases fails
  obtain ⟨refusal, judged⟩ := judged
  have known : setup.catalog.get? rules.language = some ⟨"datalog", "Datalog", .logic, false⟩ := by rfl
  exact ⟨(unsupported "Python").2 ⟨rfl, strange⟩, (untouched (.inl strange)).1,
    (notRun _).2 ((malformed _).2 ⟨by decide, broken⟩), (untouched' (.inr ⟨_, broken⟩)).2, ran,
    ⟨refusal, (refused refusal).2 ⟨_, ran, judged⟩⟩, (reached _ _ known fit).resolve_left failed⟩

end Run

end SolutionCheck
