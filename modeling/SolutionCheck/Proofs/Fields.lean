import SolutionCheck.Proofs.Intercalation
import SolutionCheck.Proofs.Lines
import SolutionCheck.Proofs.NumberText
import SolutionCheck.Proofs.TextLines

/-!
Rows of fields as a text: tabs between the fields and a line feed behind each row. Fields without
separators are found again in the text, except that a row of one empty field leaves a blank line.
-/

namespace SolutionCheck

namespace Facts

def Clean (field : List Char) : Prop := ∀ c ∈ field, isSeparator c = false

instance (field : List Char) : Decidable (Clean field) :=
  inferInstanceAs (Decidable (∀ c ∈ field, isSeparator c = false))

def joined (fields : List (List Char)) : List Char := ['\t'].intercalate fields

def spell (rows : List (List (List Char))) : List Char := rows.flatMap fun fields => joined fields ++ ['\n']

def visible (rows : List (List (List Char))) : List (List (List Char)) :=
  rows.filter fun fields => !(joined fields).isEmpty

theorem Clean.not_mem {field : List Char} (clean : Clean field) :
    '\t' ∉ field ∧ '\n' ∉ field ∧ '\r' ∉ field := by
  refine ⟨fun mem => ?_, fun mem => ?_, fun mem => ?_⟩ <;> cases clean _ mem

theorem isSeparator_of_isDigit {c : Char} (digit : c.isDigit = true) : isSeparator c = false := by
  cases separator : isSeparator c with
  | false => rfl
  | true =>
    simp only [isSeparator, Bool.or_eq_true, decide_eq_true_eq] at separator
    rcases separator with (rfl | rfl) | rfl <;> cases digit

theorem clean_toDigits (n : Nat) : Clean (Nat.toDigits 10 n) := fun _ mem =>
  isSeparator_of_isDigit (isDigit_of_mem mem)

theorem clean_signed (negative : Bool) {cs : List Char} (clean : Clean cs) : Clean (signed negative cs) := by
  cases negative with
  | true => exact List.forall_mem_cons.2 ⟨rfl, clean⟩
  | false => exact clean

theorem clean_intDigits (n : Int) : Clean (intDigits n) :=
  intDigits_eq n ▸ clean_signed _ (clean_toDigits _)

theorem clean_digits (style : FloatStyle) (x : Binary64) : Clean (style.digits x) := by
  rcases x.isNaN_or_isInfinite_or_isFinite with nan | infinite | finite
  · simp [FloatStyle.digits, nan, Clean, isSeparator]
  · rw [style.digits_of_isInfinite infinite]
    exact clean_signed _ (by simp [Clean, isSeparator])
  · obtain ⟨cs, q, text, spells, -⟩ := style.digits_of_isFinite finite
    have marks : ∀ c ∈ ['.', 'e', '+', '-'], isSeparator c = false := by simp [isSeparator]
    rw [text]
    refine clean_signed _ fun c mem => ?_
    rcases spells.mem c mem with digit | other
    · exact isSeparator_of_isDigit digit
    · exact marks c other

theorem joined_cons {field : List Char} {rest : List (List Char)} (further : rest ≠ []) :
    joined (field :: rest) = field ++ '\t' :: joined rest := by
  obtain ⟨next, rest, rfl⟩ := List.exists_cons_of_ne_nil further
  simp [joined, List.intercalate_cons_cons]

theorem mem_joined {fields : List (List Char)} {c : Char} (mem : c ∈ joined fields) :
    c = '\t' ∨ ∃ field ∈ fields, c ∈ field :=
  (mem_intercalate ['\t'] mem).imp_left List.mem_singleton.1

theorem joined_eq_nil_iff {fields : List (List Char)} (filled : fields ≠ []) :
    joined fields = [] ↔ fields = [[]] := by
  obtain ⟨field, rest, rfl⟩ := List.exists_cons_of_ne_nil filled
  by_cases last : rest = []
  · subst last
    simp [joined]
  · simp [joined_cons last, last]

theorem not_mem_joined {fields : List (List Char)} (clean : ∀ field ∈ fields, Clean field) :
    '\n' ∉ joined fields ∧ '\r' ∉ joined fields := by
  constructor <;> intro mem <;> obtain tab | ⟨field, inside, mem⟩ := mem_joined mem
  · cases tab
  · exact (clean field inside).not_mem.2.1 mem
  · cases tab
  · exact (clean field inside).not_mem.2.2 mem

theorem lines_spell {rows : List (List (List Char))} (clean : ∀ fields ∈ rows, ∀ field ∈ fields, Clean field) :
    Text.lines (spell rows) = rows.map joined := by
  have feeds : ∀ line ∈ rows.map joined, '\n' ∉ line :=
    List.forall_mem_map.2 fun fields mem => (not_mem_joined (clean fields mem)).1
  have whole : spell rows = (rows.map joined).flatMap (· ++ ['\n']) := by rw [spell, List.flatMap_map]
  rw [whole, Text.lines_flatMap_feed feeds, List.map_map]
  exact List.map_congr_left fun fields mem => Text.dropFinal_of_not_mem (not_mem_joined (clean fields mem)).2

theorem splitOn_joined {fields : List (List Char)} (filled : fields ≠ []) (clean : ∀ field ∈ fields, Clean field) :
    (joined fields).splitOn '\t' = fields :=
  List.splitOn_intercalate '\t' (fun field mem => (clean field mem).not_mem.1) filled

theorem fieldRows_spell {rows : List (List (List Char))} (filled : ∀ fields ∈ rows, fields ≠ [])
    (clean : ∀ fields ∈ rows, ∀ field ∈ fields, Clean field) : fieldRows (spell rows) = visible rows := by
  have same : ∀ fields ∈ rows, content (joined fields) = joined fields := fun fields mem =>
    Text.dropFinal_of_not_mem (not_mem_joined (clean fields mem)).2
  have cut : ∀ fields ∈ rows, fieldsIn (joined fields) = fields := fun fields mem => by
    rw [fieldsIn, same fields mem, splitOn_joined (filled fields mem) (clean fields mem)]
  rw [fieldRows, lines_spell clean, Facts.filled, List.filter_map, List.map_map, visible]
  have shown : rows.filter ((fun line => !(content line).isEmpty) ∘ joined) =
      rows.filter fun fields => !(joined fields).isEmpty :=
    List.filter_congr fun fields mem => by rw [Function.comp_apply, same fields mem]
  rw [shown]
  exact (List.map_congr_left fun fields mem => cut fields (List.mem_filter.1 mem).1).trans (List.map_id _)

theorem read_spell {schema : Schema} {rows : List (List (List Char))} (columned : schema ≠ [])
    (wide : ∀ fields ∈ rows, fields.length = schema.length)
    (clean : ∀ fields ∈ rows, ∀ field ∈ fields, Clean field) :
    read schema (String.ofList (spell rows)) = .ok ⟨schema.map Attribute.column, (visible rows).map
      (cellsOf schema ((List.range schema.length).map (isIntegral (visible rows))))⟩ := by
  have size : 0 < schema.length := List.length_pos_of_ne_nil columned
  have filled : ∀ fields ∈ rows, fields ≠ [] := by
    rintro fields mem rfl
    have := wide [] mem
    simp at this
    omega
  have found := fieldRows_spell filled clean
  rw [read_eq_ok_iff, String.toList_ofList, found]
  exact ⟨fun fields mem => wide fields (List.mem_filter.1 mem).1, rfl⟩

end Facts

end SolutionCheck
