import SolutionCheck.Report
import SolutionCheck.Proofs.NumberText
import SolutionCheck.Proofs.TextLines

/-!
Reading a report back from its text. Whatever a message or a table holds, it is cut into lines before it is
put below a verdict, and each of them is indented, so that none can be taken for a verdict. Verdicts and the
last line begin with a letter or a digit.
-/

namespace SolutionCheck

namespace Report

/-- A line as it is read back: a carriage return at its end is dropped. -/
def readBack (line : String) : String := String.ofList (Text.dropFinal '\r' line.toList)

def isIndented (line : String) : Bool := indentation.toList.isPrefixOf line.toList

def unindented (text : String) : List String := (Text.linesOf text).filter fun line => !isIndented line

/-- The names that stand in the lines of verdicts keep to one line. -/
def Unbroken (o : Outcome) : Prop := '\n' ∉ o.program.toList ∧ '\n' ∉ o.language.toList

instance (o : Outcome) : Decidable (Unbroken o) :=
  inferInstanceAs (Decidable ('\n' ∉ o.program.toList ∧ '\n' ∉ o.language.toList))

theorem toList_indentation : indentation.toList = [' ', ' ', ' ', ' ', ' ', ' '] := by decide +kernel

theorem readBack_of_not_mem {line : String} (apart : '\r' ∉ line.toList) : readBack line = line := by
  rw [readBack, Text.dropFinal_of_not_mem apart, String.ofList_toList]

theorem toList_headLine (o : Outcome) : ∃ inside, o.headLine.toList = o.verdict.tag.toList ++ inside ++ [')'] := by
  refine ⟨" ".toList ++ o.program.toList ++ " (".toList ++ o.language.toList, ?_⟩
  simp only [Outcome.headLine, String.toList_append, List.append_assoc]
  rfl

theorem readBack_headLine (o : Outcome) : readBack o.headLine = o.headLine := by
  obtain ⟨inside, whole⟩ := toList_headLine o
  rw [readBack, Text.dropFinal, if_neg, String.ofList_toList]
  rw [whole, List.getLast?_concat]
  decide

theorem toList_lastLine (outcomes : List Outcome) : (lastLine outcomes).toList =
    Nat.toDigits 10 (passCount outcomes) ++ '/' :: (Nat.toDigits 10 outcomes.length ++ " passed".toList) := by
  simp [lastLine, natText, String.toList_append]

theorem not_mem_lastLine {c : Char} (digit : c.isDigit = false) (slash : c ≠ '/') (word : c ∉ " passed".toList)
    (outcomes : List Outcome) : c ∉ (lastLine outcomes).toList := by
  have apart (n : Nat) : c ∉ Nat.toDigits 10 n := fun mem => by simp [isDigit_of_mem mem] at digit
  rw [toList_lastLine, List.mem_append, List.mem_cons, List.mem_append]
  simp only [apart, slash, word, or_self, not_false_eq_true]

theorem readBack_lastLine (outcomes : List Outcome) : readBack (lastLine outcomes) = lastLine outcomes :=
  readBack_of_not_mem (not_mem_lastLine (by decide) (by decide) (by decide +kernel) outcomes)

theorem readBack_indented (line : String) : readBack (indentation ++ line) = indentation ++ readBack line := by
  have apart : '\r' ∉ indentation.toList := by rw [toList_indentation]; decide
  rw [readBack, String.toList_append, Text.dropFinal_append apart, String.ofList_append, String.ofList_toList]
  rfl

theorem not_mem_linesOf {s line : String} (mem : line ∈ Text.linesOf s) : '\n' ∉ line.toList := by
  obtain ⟨cs, inside, rfl⟩ := List.mem_map.1 mem
  rw [String.toList_ofList]
  exact Text.not_mem_of_mem_lines inside

theorem not_mem_details {verbose : Bool} {o : Outcome} {line : String} (mem : line ∈ o.details verbose) :
    '\n' ∉ line.toList := by
  unfold Outcome.details at mem
  split at mem
  · exact not_mem_linesOf mem
  · split at mem
    · cases table : o.actual with
      | none => simp [table] at mem
      | some t =>
        rw [table, Option.map_some, Option.getD_some] at mem
        exact not_mem_linesOf mem
    · exact absurd mem List.not_mem_nil

theorem not_mem_headLine {o : Outcome} (unbroken : Unbroken o) : '\n' ∉ o.headLine.toList := by
  have tagged : '\n' ∉ o.verdict.tag.toList := by cases o.verdict <;> decide +kernel
  have signs : '\n' ∉ " ".toList ∧ '\n' ∉ " (".toList ∧ '\n' ∉ ")".toList := by decide +kernel
  simp only [Outcome.headLine, String.toList_append, List.mem_append, tagged, signs, unbroken.1, unbroken.2, or_self,
    not_false_eq_true]

theorem not_mem_linesFor {verbose : Bool} {o : Outcome} (unbroken : Unbroken o) {line : String}
    (mem : line ∈ linesFor verbose o) : '\n' ∉ line.toList := by
  obtain rfl | below := List.mem_cons.1 mem
  · exact not_mem_headLine unbroken
  · obtain ⟨detail, inside, rfl⟩ := List.mem_map.1 below
    simp [toList_indentation, not_mem_details inside]

theorem not_mem_lines {verbose : Bool} {outcomes : List Outcome} (unbroken : ∀ o ∈ outcomes, Unbroken o)
    {line : String} (mem : line ∈ lines verbose outcomes) : '\n' ∉ line.toList := by
  obtain within | last := List.mem_append.1 mem
  · obtain ⟨o, inside, mem⟩ := List.mem_flatMap.1 within
    exact not_mem_linesFor (unbroken o inside) mem
  · rw [List.mem_singleton.1 last]
    exact not_mem_lastLine (by decide) (by decide) (by decide +kernel) outcomes

theorem linesOf_text {verbose : Bool} {outcomes : List Outcome} (unbroken : ∀ o ∈ outcomes, Unbroken o) :
    Text.linesOf (text verbose outcomes) = (lines verbose outcomes).map readBack := by
  have whole : ∀ piece ∈ (lines verbose outcomes).map String.toList, '\n' ∉ piece :=
    List.forall_mem_map.2 fun line mem => not_mem_lines unbroken mem
  have pieces : ((lines verbose outcomes).flatMap fun line => line.toList ++ ['\n']) =
      ((lines verbose outcomes).map String.toList).flatMap (· ++ ['\n']) := by rw [List.flatMap_map]
  rw [text, Text.linesOf, String.toList_ofList, pieces, Text.lines_flatMap_feed whole, List.map_map, List.map_map]
  rfl

theorem isIndented_indented (line : String) : isIndented (indentation ++ line) = true := by
  rw [isIndented, List.isPrefixOf_iff_prefix, String.toList_append]
  exact List.prefix_append _ _

theorem isIndented_headLine (o : Outcome) : isIndented o.headLine = false := by
  obtain ⟨inside, whole⟩ := toList_headLine o
  rw [isIndented, whole, toList_indentation]
  cases o.verdict <;> rfl

theorem isIndented_lastLine (outcomes : List Outcome) : isIndented (lastLine outcomes) = false := by
  obtain ⟨c, rest, digits, isDigit⟩ := toDigits_cons (passCount outcomes)
  have other : ' ' ≠ c := by rintro rfl; cases isDigit
  rw [isIndented, toList_lastLine, digits, toList_indentation, List.cons_append, List.isPrefixOf_cons_cons,
    beq_false_of_ne other, Bool.false_and]

theorem filter_linesFor (verbose : Bool) (o : Outcome) :
    ((linesFor verbose o).map readBack).filter (fun line => !isIndented line) = [o.headLine] := by
  have below : ((o.details verbose).map fun line => readBack (indentation ++ line)).filter
      (fun line => !isIndented line) = [] := by
    rw [List.filter_eq_nil_iff]
    refine List.forall_mem_map.2 fun line _ => ?_
    rw [readBack_indented, isIndented_indented]
    decide
  rw [linesFor, List.map_cons, readBack_headLine, List.map_map, List.filter_cons, isIndented_headLine]
  exact congrArg (o.headLine :: ·) below

theorem unindented_text (verbose : Bool) {outcomes : List Outcome} (unbroken : ∀ o ∈ outcomes, Unbroken o) :
    unindented (text verbose outcomes) = outcomes.map Outcome.headLine ++ [lastLine outcomes] := by
  rw [unindented, linesOf_text unbroken, lines, List.map_append, List.filter_append, List.map_flatMap,
    List.filter_flatMap]
  simp only [filter_linesFor, List.map_singleton, readBack_lastLine, List.filter_singleton, isIndented_lastLine,
    ← List.map_eq_flatMap, Bool.not_false, cond_true]

end Report

end SolutionCheck
