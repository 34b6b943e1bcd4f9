import SolutionCheck.Proofs.Table

/-!
What a comparison decides. It ends in one of seven ways, two of which are panics of a sort; in the others
the tables it returns are the given ones with their rows in some order. It is a match just when both key
columns can be sorted and the arranged tables are equivalent row by row. It panics only on a column in which
a float bridges two integers.
-/

namespace SolutionCheck

open Table Comparison

/-- What two tables must satisfy to be compared cell by cell on a key column. -/
structure ComparableOn (key : String) (expected actual : Table) : Prop where
  head : expected.columns.head? = some key
  present : (actual.columnIndex? key).isSome
  expectedKind : OfOneKind (expected.cellsUnder key)
  actualKind : OfOneKind (actual.cellsUnder key)

variable [Sorting]

inductive Comparison.Ending (expected actual : Table) : Option Comparison → Prop where
  | noColumns (none : expected.columns = []) :
    Ending expected actual (some ⟨expected, actual, some .noColumns⟩)
  | missingColumn (key : String) (head : expected.columns.head? = some key)
      (absent : actual.columnIndex? key = none) :
    Ending expected actual (some ⟨expected, actual, some (.missingColumn key)⟩)
  | expectedMixed (key : String) (first second : Kind) (head : expected.columns.head? = some key)
      (mixed : mixedKinds? (expected.cellsUnder key) = some (first, second)) :
    Ending expected actual (some ⟨expected, actual, some (.mixedKinds .expected key first second)⟩)
  | expectedPanicked (key : String) (head : expected.columns.head? = some key)
      (expectedKind : OfOneKind (expected.cellsUnder key)) (panicked : expected.arrangedOn key = none) :
    Ending expected actual none
  | actualMixed (key : String) (first second : Kind) (head : expected.columns.head? = some key)
      (expectedKind : OfOneKind (expected.cellsUnder key)) (arranged : Table)
      (sorted : expected.arrangedOn key = some arranged)
      (mixed : mixedKinds? (actual.cellsUnder key) = some (first, second)) :
    Ending expected actual (some ⟨arranged, actual, some (.mixedKinds .actual key first second)⟩)
  | actualPanicked (key : String) (comparable : ComparableOn key expected actual)
      (panicked : actual.arrangedOn key = none) :
    Ending expected actual none
  | compared (key : String) (comparable : ComparableOn key expected actual) (earranged aarranged : Table)
      (esorted : expected.arrangedOn key = some earranged) (asorted : actual.arrangedOn key = some aarranged) :
    Ending expected actual (some ⟨earranged, aarranged, difference? earranged aarranged⟩)

theorem compareTables_ending (expected actual : Table) :
    Ending expected actual (compareTables expected actual) := by
  unfold compareTables
  cases columns : expected.columns with
  | nil => exact .noColumns columns
  | cons key rest =>
    have head : expected.columns.head? = some key := by rw [columns]; rfl
    cases place : actual.columnIndex? key with
    | none =>
      simp only [place, Option.isNone_none, if_true]
      exact .missingColumn key head place
    | some index =>
      have first := columnIndex?_of_head? head
      have present : ¬ (actual.columnIndex? key).isNone = true := by simp [place]
      simp only [if_neg present]
      cases emixed : mixedKinds? (expected.cellsUnder key) with
      | some kinds =>
        rw [sortOn_eq_error first emixed]
        exact .expectedMixed key kinds.1 kinds.2 head emixed
      | none =>
        have ekind := (mixedKinds?_eq_none_iff _).1 emixed
        rw [sortOn_eq_ok first ekind]
        cases esorted : expected.arrangedOn key with
        | none => exact .expectedPanicked key head ekind esorted
        | some earranged =>
          cases amixed : mixedKinds? (actual.cellsUnder key) with
          | some kinds =>
            simp only [sortOn_eq_error place amixed]
            exact .actualMixed key kinds.1 kinds.2 head ekind earranged esorted amixed
          | none =>
            have akind := (mixedKinds?_eq_none_iff _).1 amixed
            have comparable : ComparableOn key expected actual := ⟨head, by simp [place], ekind, akind⟩
            simp only [sortOn_eq_ok place akind]
            cases asorted : actual.arrangedOn key with
            | none => exact .actualPanicked key comparable asorted
            | some aarranged => exact .compared key comparable earranged aarranged esorted asorted

theorem compareTables_rearranges {expected actual : Table} {c : Comparison}
    (compared : compareTables expected actual = some c) :
    c.expected.Rearranges expected ∧ c.actual.Rearranges actual := by
  have ending := compareTables_ending expected actual
  rw [compared] at ending
  cases ending with
  | noColumns => exact ⟨Rearranges.refl expected, Rearranges.refl actual⟩
  | missingColumn => exact ⟨Rearranges.refl expected, Rearranges.refl actual⟩
  | expectedMixed => exact ⟨Rearranges.refl expected, Rearranges.refl actual⟩
  | actualMixed _ _ _ _ _ _ sorted => exact ⟨arrangedOn_rearranges sorted, Rearranges.refl actual⟩
  | compared _ _ _ _ esorted asorted => exact ⟨arrangedOn_rearranges esorted, arrangedOn_rearranges asorted⟩

def Matches (expected actual : Table) : Prop := (compareTables expected actual).any isMatch = true

instance (expected actual : Table) : Decidable (Matches expected actual) :=
  inferInstanceAs (Decidable ((compareTables expected actual).any isMatch = true))

theorem exists_comparable_of_matches {expected actual : Table} (matched : Matches expected actual) :
    ∃ key, ComparableOn key expected actual := by
  have ending := compareTables_ending expected actual
  unfold Matches at matched
  generalize compareTables expected actual = result at ending matched
  cases ending with
  | compared key comparable => exact ⟨key, comparable⟩
  | _ => cases matched

theorem ComparableOn.compareTables_eq {key : String} {expected actual : Table}
    (comparable : ComparableOn key expected actual) :
    compareTables expected actual = (expected.arrangedOn key).bind fun e =>
      (actual.arrangedOn key).map fun a => ⟨e, a, difference? e a⟩ := by
  have ending := compareTables_ending expected actual
  generalize compareTables expected actual = result at ending
  have onKey {other : String} (head : expected.columns.head? = some other) : other = key :=
    Option.some.inj (head.symm.trans comparable.head)
  cases ending with
  | noColumns none =>
    have head := comparable.head
    simp [none] at head
  | missingColumn other head absent =>
    cases onKey head
    have present := comparable.present
    simp [absent] at present
  | expectedMixed other _ _ head mixed =>
    cases onKey head
    cases ((mixedKinds?_eq_none_iff _).2 comparable.expectedKind).symm.trans mixed
  | expectedPanicked other head _ panicked =>
    cases onKey head
    rw [panicked]
    rfl
  | actualMixed other _ _ head _ _ _ mixed =>
    cases onKey head
    cases ((mixedKinds?_eq_none_iff _).2 comparable.actualKind).symm.trans mixed
  | actualPanicked other found panicked =>
    cases onKey found.head
    simp [panicked]
  | compared other found _ _ esorted asorted =>
    cases onKey found.head
    simp [esorted, asorted]

theorem matches_iff {expected actual : Table} (ewide : expected.WellFormed) (awide : actual.WellFormed) :
    Matches expected actual ↔
      ∃ key ∈ expected.columns.head?, expected.columns = actual.columns ∧
        OfOneKind (expected.cellsUnder key) ∧ OfOneKind (actual.cellsUnder key) ∧
        ∃ e ∈ expected.arrangedOn key, ∃ a ∈ actual.arrangedOn key,
          List.Forall₂ Row.Equivalent e.rows a.rows := by
  have decides (key : String) (comparable : ComparableOn key expected actual) :
      Matches expected actual ↔ expected.columns = actual.columns ∧
        ∃ e ∈ expected.arrangedOn key, ∃ a ∈ actual.arrangedOn key,
          List.Forall₂ Row.Equivalent e.rows a.rows := by
    rw [Matches, comparable.compareTables_eq]
    cases esorted : expected.arrangedOn key with
    | none => simp
    | some e =>
      cases asorted : actual.arrangedOn key with
      | none => simp
      | some a =>
        have erearranged := arrangedOn_rearranges esorted
        have arearranged := arrangedOn_rearranges asorted
        have same := difference?_eq_none_iff (erearranged.wellFormed ewide) (arearranged.wellFormed awide)
        rw [erearranged.columns, arearranged.columns] at same
        simp [isMatch, same]
  constructor
  · intro matched
    obtain ⟨key, comparable⟩ := exists_comparable_of_matches matched
    obtain ⟨columns, rows⟩ := (decides key comparable).1 matched
    exact ⟨key, comparable.head, columns, comparable.expectedKind, comparable.actualKind, rows⟩
  · rintro ⟨key, head, columns, expectedKind, actualKind, rows⟩
    have present : (actual.columnIndex? key).isSome := by
      simp [columnIndex?_of_head? (columns ▸ head : actual.columns.head? = some key)]
    exact (decides key ⟨head, present, expectedKind, actualKind⟩).2 ⟨columns, rows⟩

/-- Sorting a column of one kind panics only where a float bridges two integers. -/
theorem bridged_of_panicked {t : Table} {key : String} (kinds : OfOneKind (t.cellsUnder key))
    (panicked : t.arrangedOn key = none) : Bridged (t.cellsUnder key) := by
  by_contra unbridged
  cases place : t.columnIndex? key with
  | none => simp [arrangedOn, place] at panicked
  | some index =>
    rw [arrangedOn_of_preorder place (totalPreorderOn_of_unbridged kinds unbridged)] at panicked
    cases panicked

theorem exists_compareTables {expected actual : Table}
    (unbridged : ∀ key ∈ expected.columns.head?,
      (OfOneKind (expected.cellsUnder key) → ¬ Bridged (expected.cellsUnder key)) ∧
      (OfOneKind (actual.cellsUnder key) → ¬ Bridged (actual.cellsUnder key))) :
    ∃ c, compareTables expected actual = some c := by
  have ending := compareTables_ending expected actual
  generalize compareTables expected actual = result at ending
  cases ending with
  | expectedPanicked key head kinds none =>
    exact absurd (bridged_of_panicked kinds none) ((unbridged key head).1 kinds)
  | actualPanicked key comparable none =>
    exact absurd (bridged_of_panicked comparable.actualKind none)
      ((unbridged key comparable.head).2 comparable.actualKind)
  | _ => exact ⟨_, rfl⟩

theorem bridged_of_compareTables_eq_none {expected actual : Table}
    (panicked : compareTables expected actual = none) :
    ∃ key ∈ expected.columns.head?, Bridged (expected.cellsUnder key) ∨ Bridged (actual.cellsUnder key) := by
  by_contra unbridged
  obtain ⟨c, compared⟩ : ∃ c, compareTables expected actual = some c := exists_compareTables fun key head =>
    ⟨fun _ bridged => unbridged ⟨key, head, .inl bridged⟩, fun _ bridged => unbridged ⟨key, head, .inr bridged⟩⟩
  cases panicked.symm.trans compared

end SolutionCheck
