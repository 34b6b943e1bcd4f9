import SolutionCheck.Proofs.Lines
import SolutionCheck.Proofs.TextLines

/-!
What reading makes of the form and the order of lines. How lines are ended, whether the last one is, and
which blank ones stand among them is not seen in the table. Another order of the lines gives the same rows in
that order: whether a column is of integers is asked of all its fields together, so no cell can tell.
-/

namespace SolutionCheck

namespace Facts

def Unbroken (line : List Char) : Prop := '\n' ∉ line ∧ '\r' ∉ line

instance (line : List Char) : Decidable (Unbroken line) :=
  inferInstanceAs (Decidable ('\n' ∉ line ∧ '\r' ∉ line))

def ended (ending : List Char) (lines : List (List Char)) : List Char := lines.flatMap (· ++ ending)

/-- The second lines are the first with blank ones put in. -/
inductive Spaced : List (List Char) → List (List Char) → Prop
  | nil : Spaced [] []
  | keep (line : List Char) {lines spaced : List (List Char)} :
      Spaced lines spaced → Spaced (line :: lines) (line :: spaced)
  | blank {lines spaced : List (List Char)} : Spaced lines spaced → Spaced lines ([] :: spaced)

/-- What ends a line: a line feed, with a carriage return in front of it or without. -/
def EndsLine (ending : List Char) : Prop := ending = ['\n'] ∨ ending = ['\r', '\n']

/-- The text consists of the lines, each with an end of its own. Behind the last there may be none. -/
inductive LaidOut : List (List Char) → List Char → Prop
  | nothing : LaidOut [] []
  | last (line : List Char) : LaidOut [line] line
  | line (line : List Char) {ending : List Char} (ends : EndsLine ending) {lines : List (List Char)}
      {text : List Char} : LaidOut lines text → LaidOut (line :: lines) (line ++ ending ++ text)

theorem lines_ended {line ending : List Char} (unbroken : Unbroken line) (ends : EndsLine ending)
    (rest : List Char) : Text.lines (line ++ ending ++ rest) = line :: Text.lines rest := by
  obtain rfl | rfl := ends
  · rw [List.append_assoc, List.singleton_append, Text.lines_append_cons unbroken.1,
      Text.dropFinal_of_not_mem unbroken.2]
  · have whole : '\n' ∉ line ++ ['\r'] := by simp [unbroken.1]
    have onward : line ++ ['\r', '\n'] ++ rest = line ++ ['\r'] ++ '\n' :: rest := by simp
    rw [onward, Text.lines_append_cons whole, Text.dropFinal_concat]

theorem filled_cons (line : List Char) (lines : List (List Char)) :
    filled (line :: lines) = filled [line] ++ filled lines :=
  List.filter_append [line] lines

theorem LaidOut.filled_lines {lines : List (List Char)} {text : List Char} (laid : LaidOut lines text)
    (unbroken : ∀ line ∈ lines, Unbroken line) : filled (Text.lines text) = filled lines := by
  induction laid with
  | nothing => rfl
  | last line =>
    have here := unbroken line (List.mem_singleton_self line)
    rw [Text.lines_of_not_mem here.1]
    -- nothing behind the last end is no line, but a line of the list all the same
    by_cases blank : line = []
    · subst blank
      rfl
    · rw [if_neg blank]
  | line line ends laid ih =>
    obtain ⟨here, later⟩ := List.forall_mem_cons.1 unbroken
    rw [lines_ended here ends, filled_cons, ih later, ← filled_cons]

theorem LaidOut.read_eq_ok_iff {lines : List (List Char)} {text : List Char} (laid : LaidOut lines text)
    (unbroken : ∀ line ∈ lines, Unbroken line) (schema : Schema) (u : Table) :
    read schema (String.ofList text) = .ok u ↔
      (∀ line ∈ filled lines, (fieldsIn line).length = schema.length) ∧
        tableOf schema ((filled lines).map fieldsIn) = u := by
  rw [Facts.read_eq_ok_iff, String.toList_ofList, fieldRows, laid.filled_lines unbroken, List.forall_mem_map]

theorem laidOut_ended {ending : List Char} (ends : EndsLine ending) (lines : List (List Char)) :
    LaidOut lines (ended ending lines) := by
  induction lines with
  | nil => exact .nothing
  | cons line lines ih => exact .line line ends ih

theorem laidOut_intercalate (lines : List (List Char)) : LaidOut lines (['\n'].intercalate lines) := by
  induction lines with
  | nil => exact .nothing
  | cons line lines ih =>
    cases lines with
    | nil => simpa using LaidOut.last line
    | cons next lines =>
      rw [List.intercalate_cons_cons]
      exact .line line (.inl rfl) ih

theorem Spaced.filled_eq {lines spaced : List (List Char)} (spacing : Spaced lines spaced) :
    filled spaced = filled lines := by
  induction spacing with
  | nil => rfl
  | keep line _ ih => rw [filled_cons, ih, ← filled_cons]
  | blank _ ih => exact ih

theorem Spaced.unbroken {lines spaced : List (List Char)} (spacing : Spaced lines spaced)
    (unbroken : ∀ line ∈ lines, Unbroken line) : ∀ line ∈ spaced, Unbroken line := by
  induction spacing with
  | nil => exact unbroken
  | keep line _ ih =>
    obtain ⟨here, later⟩ := List.forall_mem_cons.1 unbroken
    exact List.forall_mem_cons.2 ⟨here, ih later⟩
  | blank _ ih => exact List.forall_mem_cons.2 ⟨by decide, ih unbroken⟩

/-- The row that a line stands for among others. -/
def rowIn (schema : Schema) (lines : List (List Char)) (line : List Char) : Row :=
  cellsOf schema ((List.range schema.length).map (isIntegral ((filled lines).map fieldsIn))) (fieldsIn line)

theorem tableOf_filled (schema : Schema) (lines : List (List Char)) :
    tableOf schema ((filled lines).map fieldsIn) =
      ⟨schema.map Attribute.column, (filled lines).map (rowIn schema lines)⟩ :=
  congrArg (Table.mk _) List.map_map

theorem rowIn_of_perm {lines others : List (List Char)} (perm : others.Perm lines) (schema : Schema) :
    rowIn schema others = rowIn schema lines := by
  have same : isIntegral ((filled others).map fieldsIn) = isIntegral ((filled lines).map fieldsIn) := by
    funext index
    exact ((perm.filter _).map fieldsIn).all_eq
  funext line
  rw [rowIn, rowIn, same]

/-- Reading lines with a carriage return in each end, with no end behind the last or with blank lines among
them gives the table that reading them gives with a line feed behind each. In another order the lines give
the same rows in that order. -/
theorem read_arranged (schema : Schema) {lines : List (List Char)} (unbroken : ∀ line ∈ lines, Unbroken line) :
    (∀ u, read schema (String.ofList (ended ['\r', '\n'] lines)) = .ok u ↔
      read schema (String.ofList (ended ['\n'] lines)) = .ok u) ∧
    (∀ u, read schema (String.ofList (['\n'].intercalate lines)) = .ok u ↔
      read schema (String.ofList (ended ['\n'] lines)) = .ok u) ∧
    (∀ spaced, Spaced lines spaced → ∀ u, read schema (String.ofList (ended ['\n'] spaced)) = .ok u ↔
      read schema (String.ofList (ended ['\n'] lines)) = .ok u) ∧
    ∀ others, others.Perm lines →
      ((∃ u, read schema (String.ofList (ended ['\n'] others)) = .ok u) ↔
        ∃ u, read schema (String.ofList (ended ['\n'] lines)) = .ok u) ∧
      ∀ u, read schema (String.ofList (ended ['\n'] lines)) = .ok u →
        ∃ rowOf : List Char → Row, u.rows = (filled lines).map rowOf ∧
          read schema (String.ofList (ended ['\n'] others)) = .ok ⟨u.columns, (filled others).map rowOf⟩ := by
  have base := (laidOut_ended (.inl rfl) lines).read_eq_ok_iff unbroken schema
  refine ⟨fun u => ?_, fun u => ?_, fun spaced spacing u => ?_, fun others perm => ?_⟩
  · rw [(laidOut_ended (.inr rfl) lines).read_eq_ok_iff unbroken, base]
  · rw [(laidOut_intercalate lines).read_eq_ok_iff unbroken, base]
  · rw [(laidOut_ended (.inl rfl) spaced).read_eq_ok_iff (spacing.unbroken unbroken), spacing.filled_eq, base]
  · have others_unbroken : ∀ line ∈ others, Unbroken line := fun line mem => unbroken line (perm.mem_iff.1 mem)
    have again := (laidOut_ended (.inl rfl) others).read_eq_ok_iff others_unbroken schema
    have wide : (∀ line ∈ filled others, (fieldsIn line).length = schema.length) ↔
        ∀ line ∈ filled lines, (fieldsIn line).length = schema.length :=
      forall_congr' fun line => imp_congr_left (perm.filter _).mem_iff
    simp only [again, base, wide, exists_and_left, exists_eq', and_true, true_and]
    rintro u ⟨fits, rfl⟩
    refine ⟨rowIn schema lines, by rw [tableOf_filled], fits, ?_⟩
    rw [tableOf_filled, tableOf_filled, rowIn_of_perm perm]

theorem read_arranged_of_lines :
    let schema : Schema := [⟨"k", "k", .number⟩, ⟨"v", "v", .float⟩]
    let lines := ["1\t2".toList, "".toList, "\t+7".toList, "-3\tx".toList]
    let spaced := ["".toList, "1\t2".toList, "".toList, "\t+7".toList, "".toList, "-3\tx".toList, "".toList]
    let others := ["-3\tx".toList, "1\t2".toList, "\t+7".toList, "".toList]
    let u : Table := ⟨["k", "v"], [[.int 1, .float (.ofInt 2)], [.null, .float (.ofInt 7)], [.int (-3), .text "x"]]⟩
    (∀ line ∈ lines, Unbroken line) ∧ Spaced lines spaced ∧ others.Perm lines ∧
    read schema "1\t2\n\n\t+7\n-3\tx\n" = .ok u ∧ read schema "1\t2\r\n\r\n\t+7\r\n-3\tx\r\n" = .ok u ∧
    read schema "1\t2\n\n\t+7\n-3\tx" = .ok u ∧ read schema "\n1\t2\n\n\t+7\n\n-3\tx\n\n" = .ok u ∧
    ∃ rowOf : List Char → Row, u.rows = (filled lines).map rowOf ∧
      read schema "-3\tx\n1\t2\n\t+7\n\n" = .ok ⟨u.columns, (filled others).map rowOf⟩ := by
  intro schema lines spaced others u
  have unbroken : ∀ line ∈ lines, Unbroken line := by decide
  have spacing : Spaced lines spaced := .blank (.keep _ (.keep _ (.keep _ (.blank (.keep _ (.blank .nil))))))
  have perm : others.Perm lines := by decide
  have done : read schema (String.ofList (ended ['\n'] lines)) = .ok u := by decide +kernel
  obtain ⟨carriages, unended, blanks, orders⟩ := read_arranged schema unbroken
  exact ⟨unbroken, spacing, perm, done, (carriages u).2 done, (unended u).2 done, (blanks spaced spacing u).2 done,
    (orders others perm).2 u done⟩

end Facts

end SolutionCheck
