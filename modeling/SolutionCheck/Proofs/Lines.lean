import SolutionCheck.Facts
import SolutionCheck.Proofs.Result

/-!
Texts of lines and fields as they are read. A line that is blank but for carriage returns at its end is
passed over. Every other line must have one field for each attribute, and the first that has not is
reported under its number among all lines. The table is a function of the fields alone: neither the
numbers of the lines nor the blank ones between them leave a trace in it.
-/

namespace SolutionCheck

namespace Facts

/-- What a line holds when a carriage return at its end is dropped. -/
def content (line : List Char) : List Char := Text.dropFinal '\r' line

def fieldsIn (line : List Char) : List (List Char) := (content line).splitOn '\t'

def filled (lines : List (List Char)) : List (List Char) := lines.filter fun line => !(content line).isEmpty

def fieldRows (text : List Char) : List (List (List Char)) := (filled (Text.lines text)).map fieldsIn

def Misfit (schema : Schema) (line : List Char) : Prop :=
  content line ≠ [] ∧ (fieldsIn line).length ≠ schema.length

instance (schema : Schema) (line : List Char) : Decidable (Misfit schema line) :=
  inferInstanceAs (Decidable (content line ≠ [] ∧ (fieldsIn line).length ≠ schema.length))

/-- The fault is at the first line that does not fit, under its number counted from one. -/
def FirstMisfit (schema : Schema) (lines : List (List Char)) (fault : LineFault) : Prop :=
  ∃ before line after, lines = before ++ line :: after ∧ (∀ other ∈ before, ¬ Misfit schema other) ∧
    Misfit schema line ∧ fault = ⟨before.length + 1, (fieldsIn line).length, schema.length⟩

def tableOf (schema : Schema) (rows : List (List (List Char))) : Table :=
  ⟨schema.map Attribute.column, rows.map (cellsOf schema ((List.range schema.length).map (isIntegral rows)))⟩

theorem mem_fieldRows {text : List Char} {fields : List (List Char)} : fields ∈ fieldRows text ↔
    ∃ line ∈ Text.lines text, content line ≠ [] ∧ fieldsIn line = fields := by
  simp [fieldRows, filled, and_assoc]

def numbered (entry : List Char × Nat) : Option (Nat × List (List Char)) :=
  if (content entry.1).isEmpty then none else some (entry.2 + 1, fieldsIn entry.1)

theorem fieldsOf_eq (text : List Char) : fieldsOf text = (Text.lines text).zipIdx.filterMap numbered := rfl

theorem filterMap_numbered (lines : List (List Char)) (start : Nat) :
    ((lines.zipIdx start).filterMap numbered).map Prod.snd = (filled lines).map fieldsIn := by
  induction lines generalizing start with
  | nil => rfl
  | cons line lines ih =>
    rw [List.zipIdx_cons, List.filterMap_cons, filled, List.filter_cons, numbered]
    cases (content line).isEmpty with
    | true => exact ih (start + 1)
    | false => exact congrArg (fieldsIn line :: ·) (ih (start + 1))

theorem map_snd_fieldsOf (text : List Char) : (fieldsOf text).map Prod.snd = fieldRows text :=
  filterMap_numbered (Text.lines text) 0

theorem find?_numbered (schema : Schema) (lines : List (List Char)) (start : Nat) :
    (((lines.zipIdx start).filterMap numbered).find? fun entry => entry.2.length ≠ schema.length) =
      (lines.zipIdx start).findSome? fun entry =>
        if decide (¬ Misfit schema entry.1) then none else some (entry.2 + 1, fieldsIn entry.1) := by
  induction lines generalizing start with
  | nil => rfl
  | cons line lines ih =>
    rw [List.zipIdx_cons, List.filterMap_cons, List.findSome?_cons, ← ih, numbered]
    by_cases blank : content line = []
    · simp [blank, Misfit]
    · by_cases fits : (fieldsIn line).length = schema.length
      · simp [blank, fits, Misfit]
      · simp [blank, fits, Misfit]

def firstMisfit? (schema : Schema) (text : List Char) : Option (Nat × List (List Char)) :=
  (fieldsOf text).find? fun entry => entry.2.length ≠ schema.length

theorem firstMisfit?_eq_some_iff (schema : Schema) (text : List Char) (entry : Nat × List (List Char)) :
    firstMisfit? schema text = some entry ↔
      ∃ before line after, Text.lines text = before ++ line :: after ∧ (∀ other ∈ before, ¬ Misfit schema other) ∧
        Misfit schema line ∧ entry = (before.length + 1, fieldsIn line) := by
  rw [firstMisfit?, fieldsOf_eq, find?_numbered]
  refine (findSome?_zipIdx_ite_eq_some_iff (fun line => decide (¬ Misfit schema line))
    (fun line index => (index + 1, fieldsIn line)) (Text.lines text) 0 entry).trans ?_
  simp only [decide_eq_true_eq, not_not, Nat.zero_add]

theorem firstMisfit?_eq_none_iff (schema : Schema) (text : List Char) :
    firstMisfit? schema text = none ↔ ∀ fields ∈ fieldRows text, fields.length = schema.length := by
  rw [firstMisfit?, List.find?_eq_none, ← map_snd_fieldsOf, List.forall_mem_map]
  simp only [decide_eq_true_eq, not_not]

theorem read_eq_elim (schema : Schema) (text : String) : read schema text =
    (firstMisfit? schema text.toList).elim (.ok (tableOf schema (fieldRows text.toList))) fun entry =>
      .error ⟨entry.1, entry.2.length, schema.length⟩ := by
  unfold read
  dsimp only
  split
  · next line fields found =>
    have first : firstMisfit? schema text.toList = some (line, fields) := found
    rw [first, Option.elim_some]
  · next found =>
    have first : firstMisfit? schema text.toList = none := found
    rw [first, Option.elim_none, tableOf, ← map_snd_fieldsOf]

theorem read_eq_error_iff (schema : Schema) (text : String) (fault : LineFault) :
    read schema text = .error fault ↔ FirstMisfit schema (Text.lines text.toList) fault := by
  have found := firstMisfit?_eq_some_iff schema text.toList
  rw [read_eq_elim]
  constructor
  · intro failed
    cases first : firstMisfit? schema text.toList with
    | none => simp [first] at failed
    | some entry =>
      obtain ⟨before, line, after, parts, fine, bad, rfl⟩ := (found entry).1 first
      rw [first] at failed
      cases failed
      exact ⟨before, line, after, parts, fine, bad, rfl⟩
  · rintro ⟨before, line, after, parts, fine, bad, rfl⟩
    rw [(found _).2 ⟨before, line, after, parts, fine, bad, rfl⟩]
    rfl

theorem read_eq_ok_iff (schema : Schema) (text : String) (u : Table) : read schema text = .ok u ↔
    (∀ fields ∈ fieldRows text.toList, fields.length = schema.length) ∧ tableOf schema (fieldRows text.toList) = u := by
  rw [read_eq_elim, ← firstMisfit?_eq_none_iff]
  cases firstMisfit? schema text.toList <;> simp

theorem forall_fieldRows_iff (schema : Schema) (text : List Char) :
    (∀ fields ∈ fieldRows text, fields.length = schema.length) ↔
      ∀ line ∈ Text.lines text, ¬ Misfit schema line := by
  simp only [mem_fieldRows, Misfit]
  constructor
  · intro wide line mem ⟨shown, misfit⟩
    exact misfit (wide _ ⟨line, mem, shown, rfl⟩)
  · rintro fits fields ⟨line, mem, shown, rfl⟩
    by_contra misfit
    exact fits line mem ⟨shown, misfit⟩

theorem exists_read_eq_error_iff (schema : Schema) (text : String) :
    (∃ fault, read schema text = .error fault) ↔ ∃ line ∈ Text.lines text.toList, Misfit schema line := by
  have fits := (firstMisfit?_eq_none_iff schema text.toList).trans (forall_fieldRows_iff schema text.toList)
  rw [read_eq_elim]
  cases first : firstMisfit? schema text.toList with
  | none => simpa using fits.1 first
  | some entry =>
    simp only [first, reduceCtorEq, false_iff, not_forall, not_not, exists_prop] at fits
    exact iff_of_true ⟨_, rfl⟩ fits

end Facts

end SolutionCheck
