import SolutionCheck.Submission
import SolutionCheck.Task
import SolutionCheck.Proofs.Integers
import SolutionCheck.Proofs.Reading
import SolutionCheck.Proofs.StructuredForm

/-!
The stored formats. Reading a task, a submission or a table settles it: a nested cell has become its text,
an integer too large for a cell the float nearest to it, a repeated key has its last value, and absent
fields have their defaults. What was read once is written and read again unchanged.
-/

namespace SolutionCheck

open Json

namespace Cell

theorem eq_toJson_of_nonFinite? {j : Json} {x : Binary64} (stands : nonFinite? j = some x) :
    j = (float x).toJson ∧ (float x).settled = float x := by
  unfold nonFinite? at stands
  split at stands
  · split at stands
    · cases stands
    · next key word same =>
      rw [not_not] at same
      subst same
      split at stands <;> cases stands <;> exact ⟨rfl, rfl⟩
  · cases stands

theorem settled_of_within {depth : Nat} {j : Json} (within : j.Within depth) :
    (ofJson j).toJson.Within depth ∧ (ofJson j).settled = ofJson j := by
  have finite (x : Binary64) (finite : x.isFinite = true) :
      (float x).toJson.Within depth ∧ (float x).settled = float x := by
    rw [toJson, if_pos finite, settled, Binary64.isNaN_of_isFinite finite, if_neg Bool.false_ne_true]
    exact ⟨.float depth finite, rfl⟩
  cases within with
  | null => exact ⟨.null depth, rfl⟩
  | bool depth b => exact ⟨.bool depth b, rfl⟩
  | @int _ n least most =>
    rw [ofJson]
    cases fits : Number.fitsInt64 n with
    | true =>
      rw [ofInt_of_fits fits, toJson, Number.toInt_ofInt fits]
      exact ⟨.int depth least most, rfl⟩
    | false =>
      simp only [Nat.pow_eq] at least most
      rw [ofInt_of_beyond fits]
      exact finite _ (Binary64.isFinite_ofInt (by omega))
  | float depth limited => exact finite _ limited
  | string depth s => exact ⟨.string depth s, rfl⟩
  | @array _ items all => exact ⟨.string _ (Json.array items).text, rfl⟩
  | @object _ members distinct all =>
    simp only [ofJson]
    split
    · next stands =>
      obtain ⟨same, settled⟩ := eq_toJson_of_nonFinite? stands
      exact ⟨same ▸ .object distinct all, settled⟩
    · exact ⟨.string _ (Json.object members).text, rfl⟩

end Cell

variable [Numerals]

theorem Cell.stable_read : Stable Cell.read Cell.toJson := by
  intro depth d cell read
  obtain ⟨j, found, rfl⟩ := map_eq_ok read
  obtain ⟨within, settled⟩ := Cell.settled_of_within (within_of_readValue depth d found)
  refine ⟨within, fun d shown => ?_⟩
  rw [Cell.read, readValue_of_shows within d shown]
  exact congrArg Except.ok ((Cell.ofJson_toJson _).trans settled)

theorem stable_sample : Stable readSample sampleJson := Cell.stable_read.keyed.list.keyed

namespace PlanStep

def slots : List (Slot PlanStep) :=
  [⟨"id", true, readString, fun s id => { s with id }, id, .string⟩,
    ⟨"description", true, readString, fun s description => { s with description }, description, .string⟩]

theorem compose_slots : Slot.Compose slots where
  apart := by simp [slots, Slot.apart_iff]
  held := by simp [slots]
  ext := by
    rintro ⟨⟩ ⟨⟩
    simp [slots]
  stable := by simp [slots, stable_string]

theorem stable_read : Stable read toJson := by
  have empty (depth : Nat) : Returns readString depth (.string "") "" :=
    stable_string depth (.string .closed) "" rfl
  exact compose_slots.stable_structure (by simp [slots, Slot.Settled, empty]) "Plan"

end PlanStep

namespace Span

def slots : List (Slot Span) :=
  [⟨"line", true, readNat 32, fun s line => { s with line }, line, fun n => .int n⟩,
    ⟨"start", true, readNat 32, fun s start => { s with start }, start, fun n => .int n⟩,
    ⟨"end", true, readNat 32, fun s stop => { s with stop }, stop, fun n => .int n⟩]

theorem compose_slots : Slot.Compose slots where
  apart := by simp [slots, Slot.apart_iff]
  held := by simp [slots]
  ext := by
    rintro ⟨⟩ ⟨⟩
    simp [slots]
  stable := by simp [slots, stable_nat]

theorem stable_read : Stable read toJson := by
  have zero (depth : Nat) : Returns (readNat 32) depth (.int 0) 0 :=
    returns_nat depth (by decide) (by decide)
  exact compose_slots.stable_structure (by simp [slots, Slot.Settled, zero]) "SourceRange"

end Span

namespace Table

def slots : List (Slot Table) :=
  [⟨"columns", true, readList readString, fun t columns => { t with columns }, columns, ofTexts⟩,
    ⟨"rows", true, readList (readList Cell.read), fun t rows => { t with rows }, rows,
      fun rows => .array (rows.map fun row => .array (row.map Cell.toJson))⟩]

theorem compose_slots : Slot.Compose slots where
  apart := by simp [slots, Slot.apart_iff]
  held := by simp [slots]
  ext := by
    rintro ⟨⟩ ⟨⟩
    simp [slots]
  stable := by
    have columns : Stable (readList readString) ofTexts := stable_string.list
    simp [slots, columns, Cell.stable_read.list.list]

theorem readsBack (shortest : Numerals.ReadsShortest) : ReadsBack (readText Table.read) toJson := by
  refine readsBack_of_returns shortest fun d t => compose_slots.returns ?_
  have columns := stable_string.list (maxDepth - 1) (.array (.stop .closed)) [] rfl
  have rows := Cell.stable_read.list.list (maxDepth - 1) (.array (.stop .closed)) [] rfl
  simp only [slots, List.forall_mem_cons]
  exact ⟨columns, rows, List.forall_mem_nil _⟩

end Table

namespace Task

def slots : List (Slot Task) :=
  [⟨"id", true, readString, fun t id => { t with id }, id, .string⟩,
    ⟨"category", false, readString, fun t category => { t with category }, category, .string⟩,
    ⟨"description", false, readString, fun t description => { t with description }, description, .string⟩,
    ⟨"plan", false, readList PlanStep.read, fun t plan => { t with plan }, plan,
      fun plan => .array (plan.map PlanStep.toJson)⟩,
    ⟨"sample_input", false, readSample, fun t sampleInput => { t with sampleInput }, sampleInput, sampleJson⟩,
    ⟨"sample_output", false, readValue, fun t sampleOutput => { t with sampleOutput }, sampleOutput, fun j => j⟩]

theorem compose_slots : Slot.Compose slots where
  apart := by simp [slots, Slot.apart_iff]
  held := by simp [slots]
  ext := by
    rintro ⟨⟩ ⟨⟩
    simp [slots]
  stable := by
    simp [slots, stable_string, PlanStep.stable_read.list, stable_sample, stable_value]

theorem readsBack (shortest : Numerals.ReadsShortest) : ReadsBack parse toJson := by
  refine readsBack_of_returns shortest fun d task => compose_slots.returns ?_
  have empty := stable_string (maxDepth - 1) (.string .closed) "" rfl
  have plan := PlanStep.stable_read.list (maxDepth - 1) (.array (.stop .closed)) [] rfl
  have sample := stable_sample (maxDepth - 1) (.object (.stop .closed)) ∅ rfl
  have output := stable_value (maxDepth - 1) .null .null rfl
  simp only [slots, List.forall_mem_cons]
  exact ⟨empty, empty, empty, plan, sample, output, List.forall_mem_nil _⟩

end Task

namespace Submission

def slots : List (Slot Submission) :=
  [⟨"task", true, readString, fun s task => { s with task }, task, .string⟩,
    ⟨"language", true, readString, fun s language => { s with language }, language, .string⟩,
    ⟨"plan", false, readKeyed (readList Span.read), fun s plan => { s with plan }, plan,
      ofKeyed fun spans => .array (spans.map Span.toJson)⟩,
    ⟨"source", false, readString, fun s source => { s with source }, source, .string⟩,
    ⟨"author", false, readString, fun s author => { s with author }, author, .string⟩,
    ⟨"implementation", false, readString, fun s implementation => { s with implementation }, implementation,
      .string⟩]

theorem compose_slots : Slot.Compose slots where
  apart := by simp [slots, Slot.apart_iff]
  held := by simp [slots]
  ext := by
    rintro ⟨⟩ ⟨⟩
    simp [slots]
  stable := by simp [slots, stable_string, Span.stable_read.list.keyed]

theorem readsBack (shortest : Numerals.ReadsShortest) : ReadsBack parse toJson := by
  refine readsBack_of_returns shortest fun d submission => compose_slots.returns ?_
  have empty := stable_string (maxDepth - 1) (.string .closed) "" rfl
  have plan := Span.stable_read.list.keyed (maxDepth - 1) (.object (.stop .closed)) ∅ rfl
  simp only [slots, List.forall_mem_cons]
  exact ⟨empty, empty, plan, empty, empty, empty, List.forall_mem_nil _⟩

end Submission

/-- Reading, writing and reading again gives every stored value again, and the same text of it, as long as
the digits written for a finite float are read as that float. -/
theorem readsBack_stored (shortest : Numerals.ReadsShortest) :
    ReadsBack Task.parse Task.toJson ∧ ReadsBack Submission.parse Submission.toJson ∧
      ReadsBack (readText Table.read) Table.toJson :=
  ⟨Task.readsBack shortest, Submission.readsBack shortest, Table.readsBack shortest⟩

omit [Numerals] in
theorem readsBack_stored_of_nested :
    letI := Numerals.nearest
    let repeated := "\x7b\"id\":\"\",\"sample_input\":\x7b\"r\":[\x7b\"x\":1.5,\"x\":\x7b\"$float\":\"nan\"\x7d\x7d]\x7d\x7d"
    let short := "\x7b\"task\":\"\",\"language\":\"\"\x7d"
    let nested := "\x7b\"columns\":[\"x\"],\"rows\":[[[1]],[0.50]]\x7d"
    let written := "\x7b\"columns\":[\"x\"],\"rows\":[[\"[1]\"],[0.5]]\x7d"
    Numerals.ReadsShortest ∧
    (∃ task again, Task.parse repeated = .ok task ∧
      Task.parse task.toJson.indentedText = .ok again ∧ again = task) ∧
    (∃ submission again, Submission.parse short = .ok submission ∧
      Submission.parse submission.toJson.text = .ok again ∧ again = submission) ∧
    ∃ table again, readText Table.read nested = .ok table ∧ readText Table.read table.toJson.text = .ok again ∧
      again.toJson.text = written := by
  let _ := Numerals.nearest
  intro repeated short nested written
  have task : (Task.parse repeated).map (fun _ => ()) = .ok () := by decide +kernel
  have submission : (Submission.parse short).map (fun _ => ()) = .ok () := by decide +kernel
  have table : (readText Table.read nested).map (fun t => t.toJson.text) = .ok written := by decide +kernel
  obtain ⟨task, taskRead, -⟩ := map_eq_ok task
  obtain ⟨submission, submissionRead, -⟩ := map_eq_ok submission
  obtain ⟨table, tableRead, tableWritten⟩ := map_eq_ok table
  obtain ⟨tasks, submissions, tables⟩ := readsBack_stored Numerals.readsShortest_nearest
  obtain ⟨task', taskAgain, taskSame, -⟩ := tasks repeated task taskRead Json.indentedText (by simp)
  obtain ⟨submission', submissionAgain, submissionSame, -⟩ :=
    submissions short submission submissionRead Json.text (by simp)
  obtain ⟨table', tableAgain, -, tableText⟩ := tables nested table tableRead Json.text (by simp)
  exact ⟨Numerals.readsShortest_nearest, ⟨task, task', taskRead, taskAgain, taskSame⟩,
    ⟨submission, submission', submissionRead, submissionAgain, submissionSame⟩,
    table, table', tableRead, tableAgain, tableText.trans tableWritten⟩

end SolutionCheck
