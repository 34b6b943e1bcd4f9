import SolutionCheck.Submission
import SolutionCheck.Proofs.FirstSeen
import SolutionCheck.Proofs.Keyed

/-!
Catalogs made of lists of languages. Every identifier of the list stands once in the catalog, at the place
where it came first and with the language that came last. Whoever asks the catalog for an identifier, be it
for the language, for its engine or for a submission to be checked, is told the same, and the table of the
catalog has one row for each identifier.
-/

namespace SolutionCheck

theorem Keyed.keys_foldl_put {α : Type} (entries : List (String × α)) (t : Keyed α) :
    (entries.foldl (fun t entry => t.put entry.1 entry.2) t).keys =
      (entries.map Prod.fst).foldl addKey t.keys := by
  induction entries generalizing t with
  | nil => rfl
  | cons entry rest ih =>
    have put : (t.put entry.1 entry.2).keys = addKey t.keys entry.1 := by
      rw [keys_put, addKey]
      simp only [List.contains_iff_mem]
    rw [List.foldl_cons, ih, put, List.map_cons, List.foldl_cons]

theorem Keyed.firstSeen_keys_ofList {α : Type} (entries : List (String × α)) :
    FirstSeen (entries.map Prod.fst) (ofList entries).keys := by
  rw [ofList, keys_foldl_put]
  exact FirstSeen.nil.foldl_addKey (entries.map Prod.fst)

namespace Catalog

/-- A language of the list behind which no other one has its identifier. -/
def IsLast (languages : List Language) (language : Language) : Prop :=
  ∃ before after, languages = before ++ language :: after ∧ ∀ other ∈ after, other.id ≠ language.id

def Listed (languages : List Language) (id : String) : Prop := ∃ language ∈ languages, language.id = id

instance (languages : List Language) (id : String) : Decidable (Listed languages id) :=
  inferInstanceAs (Decidable (∃ language ∈ languages, language.id = id))

variable (languages : List Language)

theorem firstSeen_keys : FirstSeen (languages.map Language.id) (ofList languages).byId.keys := by
  have seen := Keyed.firstSeen_keys_ofList (languages.map fun language => (language.id, language))
  rwa [List.map_map] at seen

theorem listed_iff (id : String) : Listed languages id ↔ id ∈ (ofList languages).byId.keys := by
  rw [(firstSeen_keys languages).mem, List.mem_map]
  rfl

theorem get?_ofList_eq_some_iff (id : String) (language : Language) :
    (ofList languages).get? id = some language ↔ language.id = id ∧ IsLast languages language := by
  have last : (ofList languages).get? id = languages.reverse.find? fun language => language.id = id := by
    rw [get?, ofList, Keyed.get?_ofList, ← List.map_reverse, valueOf?, List.find?_map, Option.map_map]
    exact Option.map_id'
  rw [last, List.find?_eq_some_iff_append, decide_eq_true_eq]
  refine and_congr_right fun here => ?_
  subst here
  constructor
  · rintro ⟨after, before, parts, others⟩
    refine ⟨before.reverse, after.reverse, ?_, fun other mem => ?_⟩
    · rw [← List.reverse_inj, parts]
      simp
    · simpa using others other (List.mem_reverse.1 mem)
  · rintro ⟨before, after, rfl, others⟩
    exact ⟨after.reverse, before.reverse, by simp, fun other mem => by
      simpa using others other (List.mem_reverse.1 mem)⟩

theorem last_of_mem_entries {entry : String × Language} (mem : entry ∈ (ofList languages).byId.entries) :
    entry.2.id = entry.1 ∧ IsLast languages entry.2 :=
  (get?_ofList_eq_some_iff languages entry.1 entry.2).1
    (((ofList languages).byId.get?_eq_some_iff entry.1 entry.2).2 mem)

theorem exists_get?_iff (id : String) :
    (∃ language, (ofList languages).get? id = some language) ↔ Listed languages id := by
  rw [listed_iff, ← not_iff_not, ← Keyed.get?_eq_none_iff, Option.eq_none_iff_forall_ne_some]
  exact not_exists

theorem contains_iff (id : String) : (ofList languages).contains id = true ↔ Listed languages id := by
  rw [listed_iff, contains, Keyed.contains, List.contains_iff_mem]

theorem exists_engine?_iff (id : String) :
    (∃ engine, (ofList languages).engine? id = some engine) ↔ Listed languages id := by
  rw [← exists_get?_iff]
  simp only [engine?, Option.map_eq_some_iff]
  constructor
  · rintro ⟨_, language, found, -⟩
    exact ⟨language, found⟩
  · rintro ⟨language, found⟩
    exact ⟨_, language, found, rfl⟩

theorem fault?_eq {submission : Submission} (authored : submission.author ≠ "") (written : submission.source ≠ "")
    (catalog : Catalog) : submission.fault? catalog =
      if catalog.contains submission.language then none else some (.unknownLanguage submission.language) := by
  rw [Submission.fault?, if_neg (by simpa using authored), if_neg (by simpa using written)]
  cases catalog.contains submission.language <;> rfl

/-- A catalog answers for the list it was made of: it has each identifier of the list once, where the list
has it first, with the last language of the list that has it, and it knows no other identifier. -/
theorem ofList_lookups : ∃ ids, FirstSeen (languages.map Language.id) ids ∧
    List.Forall₂ (fun id language => language.id = id ∧ IsLast languages language) ids
      (ofList languages).languages ∧
    List.Forall₂ (fun id row => ∃ language, language.id = id ∧ IsLast languages language ∧
      row = [.text id, .text language.name, .text language.engine.label, .bool language.tabular]) ids
      (ofList languages).toTable.rows ∧
    (∀ id, ((ofList languages).contains id = true ↔ Listed languages id) ∧
      ((∃ language, (ofList languages).get? id = some language) ↔ Listed languages id) ∧
      ((∃ engine, (ofList languages).engine? id = some engine) ↔ Listed languages id)) ∧
    (∀ submission : Submission, submission.author ≠ "" → submission.source ≠ "" →
      (submission.fault? (ofList languages) = none ↔ Listed languages submission.language) ∧
      (submission.fault? (ofList languages) = some (.unknownLanguage submission.language) ↔
        ¬ Listed languages submission.language)) ∧
    ∀ language, IsLast languages language → (ofList languages).get? language.id = some language ∧
      (ofList languages).engine? language.id = some language.engine := by
  refine ⟨(ofList languages).byId.keys, firstSeen_keys languages, ?_, ?_, fun id =>
    ⟨contains_iff languages id, exists_get?_iff languages id, exists_engine?_iff languages id⟩, ?_, ?_⟩
  · rw [Catalog.languages, Keyed.keys, Keyed.values, List.forall₂_map_left_iff, List.forall₂_map_right_iff,
      List.forall₂_same]
    exact fun entry mem => last_of_mem_entries languages mem
  · rw [toTable, Catalog.languages, Keyed.keys, Keyed.values, List.map_map, List.forall₂_map_left_iff,
      List.forall₂_map_right_iff, List.forall₂_same]
    intro entry mem
    obtain ⟨named, last⟩ := last_of_mem_entries languages mem
    exact ⟨entry.2, named, last, by rw [← named]; rfl⟩
  · intro submission authored written
    rw [fault?_eq authored written, ← contains_iff]
    cases (ofList languages).contains submission.language <;> simp
  · intro language last
    have found := (get?_ofList_eq_some_iff languages language.id language).2 ⟨rfl, last⟩
    exact ⟨found, by rw [engine?, found, Option.map_some]⟩

theorem ofList_lookups_of_repeated :
    let old : Language := ⟨"sql", "SQL", .relational, false⟩
    let other : Language := ⟨"py", "Python", .interpreter, true⟩
    let new : Language := ⟨"sql", "Rules", .logic, false⟩
    let languages := [old, other, new]
    let submission : Submission := ⟨"t", "sql", ∅, "SELECT 1", "ann", ""⟩
    IsLast languages new ∧ ¬ IsLast languages old ∧
      (ofList languages).get? "sql" = some new ∧ (ofList languages).engine? "sql" = some .logic ∧
      submission.fault? (ofList languages) = none ∧
      { submission with language := "SQL" }.fault? (ofList languages) = some (.unknownLanguage "SQL") := by
  intro old other new languages submission
  have last : IsLast languages new := ⟨[old, other], [], rfl, by simp⟩
  obtain ⟨-, -, -, -, -, checked, found⟩ := ofList_lookups languages
  have replaced : ¬ IsLast languages old := by
    intro kept
    have same : some old = some new := (found old kept).1.symm.trans (found new last).1
    exact absurd same (by decide)
  refine ⟨last, replaced, (found new last).1, (found new last).2, ?_, ?_⟩
  · exact (checked submission (by decide) (by decide)).1.2 ⟨new, by decide, rfl⟩
  · exact (checked { submission with language := "SQL" } (by decide) (by decide)).2.2 (by decide)

end Catalog

end SolutionCheck
