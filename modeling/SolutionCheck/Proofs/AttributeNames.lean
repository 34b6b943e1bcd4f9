import Mathlib.Data.List.Nodup
import SolutionCheck.Proofs.ReadBack

/-!
The names of attributes. A column that reads as an integer gets a letter in front and every other column
keeps its name, so two columns end up with one name just where one of them is what the other is given. A
declaration then declares an attribute twice, which can be read off its line where no name holds a
character that ends a name in it.
-/

namespace SolutionCheck

/-- The name reads as an integer of 64 bits, blanks around it aside. -/
def IsNumeral (column : String) : Prop := ∃ n, Number.readInt? (Text.trim column.toList) = some n

instance (column : String) : Decidable (IsNumeral column) :=
  decidable_of_iff _ Option.isSome_iff_exists

/-- No column that reads as an integer stands beside the name that it is given. -/
def NamesApart (columns : List String) : Prop :=
  ∀ column ∈ columns, IsNumeral column → "x" ++ column ∉ columns

instance (columns : List String) : Decidable (NamesApart columns) :=
  inferInstanceAs (Decidable (∀ column ∈ columns, IsNumeral column → "x" ++ column ∉ columns))

def Undivided (column : String) : Prop := ',' ∉ column.toList ∧ ':' ∉ column.toList

instance (column : String) : Decidable (Undivided column) :=
  inferInstanceAs (Decidable (',' ∉ column.toList ∧ ':' ∉ column.toList))

section Names

theorem attributeName_of_isNumeral {column : String} (numeral : IsNumeral column) :
    attributeName column = "x" ++ column := by
  obtain ⟨n, reads⟩ := numeral
  rw [attributeName, reads, Option.isSome_some, if_pos rfl]

theorem attributeName_of_not_isNumeral {column : String} (other : ¬ IsNumeral column) :
    attributeName column = column := by
  rw [attributeName, if_neg]
  exact fun reads => other (Option.isSome_iff_exists.1 reads)

theorem head?_trim {c : Char} (solid : Text.isBlank c = false) (cs : List Char) :
    (Text.trim (c :: cs)).head? = some c := by
  rw [Text.trim, List.dropWhile_cons_of_neg (by simp [solid]), Text.trimEnd, List.reverse_cons,
    List.dropWhile_append]
  split
  · simp [solid]
  · simp

theorem readInt?_eq_none {cs : List Char} (head : cs.head? = some 'x') : Number.readInt? cs = none := by
  obtain ⟨rest, rfl⟩ := List.head?_eq_some_iff.1 head
  simp [Number.readInt?, Number.splitSign]

theorem not_isNumeral_prefixed (column : String) : ¬ IsNumeral ("x" ++ column) := by
  rintro ⟨n, reads⟩
  rw [String.toList_append] at reads
  have head : (Text.trim ("x".toList ++ column.toList)).head? = some 'x' := head?_trim (by decide) column.toList
  rw [readInt?_eq_none head] at reads
  cases reads

theorem attributeName_eq_iff (a b : String) : attributeName a = attributeName b ↔
    a = b ∨ IsNumeral a ∧ "x" ++ a = b ∨ IsNumeral b ∧ "x" ++ b = a := by
  have apart {a b : String} (numeral : IsNumeral b) : ¬ "x" ++ a = b := by
    rintro rfl
    exact not_isNumeral_prefixed a numeral
  by_cases numeral : IsNumeral a <;> by_cases other : IsNumeral b
  · rw [attributeName_of_isNumeral numeral, attributeName_of_isNumeral other, String.append_right_inj]
    simp [apart numeral, apart other]
  · rw [attributeName_of_isNumeral numeral, attributeName_of_not_isNumeral other]
    have different : a ≠ b := fun same => other (same ▸ numeral)
    simp [numeral, other, different]
  · rw [attributeName_of_not_isNumeral numeral, attributeName_of_isNumeral other]
    have different : a ≠ b := fun same => numeral (same ▸ other)
    simp [numeral, other, different, eq_comm]
  · rw [attributeName_of_not_isNumeral numeral, attributeName_of_not_isNumeral other]
    simp [numeral, other]

theorem names_ofTable (t : Table) : (Schema.ofTable t).map Attribute.name = t.columns.map attributeName :=
  List.ext_getElem (by simp [Schema.ofTable]) fun index _ _ => by simp [Schema.ofTable]

theorem nodup_attributeNames_iff {columns : List String} (distinct : columns.Nodup) :
    (columns.map attributeName).Nodup ↔ NamesApart columns := by
  rw [List.nodup_map_iff_inj_on distinct]
  constructor
  · intro injective column mem numeral taken
    have same := injective column mem ("x" ++ column) taken
      ((attributeName_eq_iff _ _).2 (.inr (.inl ⟨numeral, rfl⟩)))
    exact not_isNumeral_prefixed column (same ▸ numeral)
  · intro apart a ha b hb same
    rcases (attributeName_eq_iff a b).1 same with equal | ⟨numeral, rfl⟩ | ⟨numeral, rfl⟩
    · exact equal
    · exact absurd hb (apart a ha numeral)
    · exact absurd ha (apart b hb numeral)

end Names

section Declarations

namespace Schema

/-- The names in the parts of a declaration: what stands before the colon of each. Commas with a blank
behind them stand between the parts. -/
def namesInParts (parts : List Char) : List (List Char) :=
  match parts.splitOn ',' with
  | [] => []
  | first :: rest => (first :: rest.map List.tail).map (List.takeWhile (· ≠ ':'))

def namesInLine (relation line : String) : List (List Char) :=
  let parts := (line.toList.drop (".decl " ++ relation ++ "(").length).dropLast
  if parts.isEmpty then [] else namesInParts parts

def part (a : Attribute) : List Char := a.name.toList ++ ':' :: a.type.name.toList

theorem intercalate_blank (part : List Char) (parts : List (List Char)) :
    [',', ' '].intercalate (part :: parts) = [','].intercalate (part :: parts.map (' ' :: ·)) := by
  induction parts generalizing part with
  | nil => simp
  | cons next parts ih =>
    rw [List.intercalate_cons_cons, ih, List.map_cons, List.intercalate_cons_cons]
    cases parts <;> simp [List.intercalate_cons_cons]

theorem part_undivided {a : Attribute} (undivided : Undivided a.name) :
    ',' ∉ part a ∧ (part a).takeWhile (· ≠ ':') = a.name.toList := by
  have typed : ',' ∉ a.type.name.toList := by cases a.type <;> decide
  refine ⟨by simp [part, undivided.1, typed], ?_⟩
  rw [part, List.takeWhile_append_of_pos]
  · simp
  · intro c mem
    exact decide_eq_true fun same => undivided.2 (same ▸ mem)

theorem namesInParts_intercalate {schema : Schema} (filled : schema ≠ [])
    (undivided : ∀ a ∈ schema, Undivided a.name) :
    namesInParts ([',', ' '].intercalate (schema.map part)) = schema.map (·.name.toList) := by
  obtain ⟨first, rest, rfl⟩ := List.exists_cons_of_ne_nil filled
  have whole : ∀ cs ∈ part first :: (rest.map part).map (' ' :: ·), ',' ∉ cs := by
    obtain ⟨here, later⟩ := List.forall_mem_cons.1 undivided
    refine List.forall_mem_cons.2 ⟨(part_undivided here).1, ?_⟩
    simp only [List.map_map, List.forall_mem_map, Function.comp_apply]
    intro a mem
    simpa using (part_undivided (later a mem)).1
  have tails : ((rest.map part).map (' ' :: ·)).map List.tail = rest.map part := by
    rw [List.map_map]
    exact List.map_id'' (fun _ => rfl) _
  rw [namesInParts, List.map_cons, intercalate_blank, List.splitOn_intercalate ',' whole (List.cons_ne_nil _ _)]
  simp only [tails]
  rw [← List.map_cons, List.map_map]
  exact List.map_congr_left fun a mem => (part_undivided (undivided a mem)).2

theorem namesInLine_declaration (relation : String) {schema : Schema}
    (undivided : ∀ a ∈ schema, Undivided a.name) :
    namesInLine relation (schema.declaration relation) = schema.map (·.name.toList) := by
  have line : (schema.declaration relation).toList =
      (".decl " ++ relation ++ "(").toList ++ ([',', ' '].intercalate (schema.map part) ++ [')']) := by
    have parts : (schema.map fun a => a.name ++ ":" ++ a.type.name).map String.toList = schema.map part := by
      rw [List.map_map]
      exact List.map_congr_left fun a _ => by simp [part]
    simp only [declaration, String.toList_append, String.toList_intercalate, parts, List.append_assoc]
    rfl
  rw [namesInLine, line, ← String.length_toList, List.drop_left, List.dropLast_concat]
  cases schema with
  | nil => rfl
  | cons first rest =>
    have shown : ¬ ([',', ' '].intercalate ((first :: rest).map part)).isEmpty = true := by
      cases rest <;> simp [List.intercalate_cons_cons, part]
    simp only [if_neg shown]
    exact namesInParts_intercalate (List.cons_ne_nil _ _) undivided

end Schema

theorem Undivided.attributeName {column : String} (undivided : Undivided column) :
    Undivided (attributeName column) := by
  by_cases numeral : IsNumeral column
  · rw [attributeName_of_isNumeral numeral]
    simpa [Undivided] using undivided
  · rwa [attributeName_of_not_isNumeral numeral]

/-- Under distinct columns the attributes have distinct names, and the line that declares them names none
of them twice, just where no column that reads as an integer stands beside the name that it is given. -/
theorem declared_once_iff {t : Table} (distinct : t.columns.Nodup) :
    (((Schema.ofTable t).map Attribute.name).Nodup ↔ NamesApart t.columns) ∧
    ∀ relation, (∀ column ∈ t.columns, Undivided column) →
      ((Schema.namesInLine relation ((Schema.ofTable t).declaration relation)).Nodup ↔
        NamesApart t.columns) := by
  have names := names_ofTable t ▸ nodup_attributeNames_iff distinct
  refine ⟨names, fun relation undivided => ?_⟩
  have whole : ∀ a ∈ Schema.ofTable t, Undivided a.name := by
    intro a mem
    have named := List.mem_map_of_mem (f := Attribute.name) mem
    rw [names_ofTable] at named
    obtain ⟨column, inside, same⟩ := List.mem_map.1 named
    exact same ▸ (undivided column inside).attributeName
  have texts : (Schema.ofTable t).map (·.name.toList) =
      ((Schema.ofTable t).map Attribute.name).map String.toList := by rw [List.map_map]; rfl
  rw [Schema.namesInLine_declaration relation whole, texts,
    List.nodup_map_iff fun _ _ same => String.toList_inj.1 same]
  exact names

theorem declared_once_of_numbered :
    let t : Table := ⟨["0", "x1", " 7", "name"], [[.int 1, .null, .text "a", .bool true]]⟩
    t.columns.Nodup ∧ (∀ column ∈ t.columns, Undivided column) ∧
    ((Schema.ofTable t).map Attribute.name).Nodup ∧
    (Schema.namesInLine "r" ((Schema.ofTable t).declaration "r")).Nodup := by
  intro t
  have distinct : t.columns.Nodup := by decide
  have undivided : ∀ column ∈ t.columns, Undivided column := by decide
  have apart : NamesApart t.columns := by decide +kernel
  obtain ⟨names, line⟩ := declared_once_iff distinct
  exact ⟨distinct, undivided, names.2 apart, (line "r" undivided).2 apart⟩

/-- A column that reads as an integer gets the name that another column has. A name with a comma and a
colon in it makes a line declare an attribute twice even where the names are apart. -/
theorem declared_twice :
    let clash : Table := ⟨["0", "x0"], []⟩
    let divided : Table := ⟨["a:symbol, b", "b"], []⟩
    (clash.columns.Nodup ∧ ¬ ((Schema.ofTable clash).map Attribute.name).Nodup ∧
      (Schema.ofTable clash).declaration "r" = ".decl r(x0:symbol, x0:symbol)") ∧
    divided.columns.Nodup ∧ NamesApart divided.columns ∧
      ¬ (Schema.namesInLine "r" ((Schema.ofTable divided).declaration "r")).Nodup := by
  decide +kernel

end Declarations

end SolutionCheck
