import SolutionCheck.Proofs.Indexing
import SolutionCheck.Proofs.Stored

/-!
What a stored table holds, seen from its text. A required field of a structure is read of the part of the
text that is written for it, and a list has as many elements as are written. The table that is read thus
has the widths that its text shows, be they equal or not: its rows are as wide as its list of columns just
where the text is so, and it can be drawn just where no written row is longer than the list of columns.
-/

namespace SolutionCheck

namespace Json

def Items.toList : Items → List Document
  | .stop _ => []
  | .item d rest => d :: rest.toList

def Members.value? (name : String) : Members → Option Document
  | .member key value rest => if key.text.toOption = some name then some value else rest.value? name
  | _ => none

namespace Document

def elements : Document → List Document
  | .array items => items.toList
  | _ => []

/-- What is written for a field of a structure: the member of its name, or the element at its place. -/
def part? (name : String) (place : Nat) : Document → Option Document
  | .object members => members.value? name
  | .array items => items.toList[place]?
  | _ => none

end Document

variable {α : Type}

theorem forall₂_of_readItems {read : Document → Except Fault α} : (items : Items) → {as : List α} →
    readItems read items = .ok as → List.Forall₂ (fun d a => read d = .ok a) items.toList as
  | .stop _, _, done => by
    obtain ⟨_, -, same⟩ := bind_eq_ok done
    cases same
    exact .nil
  | .item _ rest, _, done => by
    obtain ⟨a, first, done⟩ := bind_eq_ok done
    obtain ⟨as, others, same⟩ := bind_eq_ok done
    cases same
    exact .cons first (forall₂_of_readItems rest others)

variable [Numerals]

theorem forall₂_of_readList {reader : Reader α} {depth : Nat} {d : Document} {as : List α}
    (read : readList reader depth d = .ok as) :
    List.Forall₂ (fun element a => reader (depth - 1) element = .ok a) d.elements as := by
  unfold readList at read
  split at read
  · cases read
  · next items => exact forall₂_of_readItems items read
  · exact absurd read (wrongType_ne_ok _ _ _)

namespace Slot

variable {slots : List (Slot α)} {depth : Nat}

theorem Compose.held_of_readFields (compose : Compose slots) : (members : Members) → (seen : List String) →
    {a b : α} → readFields (slots.map field) depth seen members a = .ok b → ∀ s ∈ slots,
      (s.name ∈ seen → s.held b = s.held a) ∧
      (s.name ∉ seen → s.required = true →
        ∃ part, members.value? s.name = some part ∧ s.reader depth part = .ok (s.held b))
  | .stop _, seen, a, b, read => by
    obtain ⟨_, -, read⟩ := bind_eq_ok read
    split at read
    · cases read
    · next complete =>
      cases read
      intro s mem
      refine ⟨fun _ => rfl, fun fresh required => ?_⟩
      have passed := List.find?_eq_none.1 complete s.field (List.mem_map_of_mem mem)
      have isRequired : s.field.required = true := required
      have isFresh : s.field.name ∉ seen := fresh
      simp [isRequired, isFresh] at passed
  | .badKey _, _, _, _, read => by cases read
  | .bareKey _ _, _, _, _, read => by
    obtain ⟨_, -, read⟩ := bind_eq_ok read
    split at read <;> cases read
  | .member literal d rest, seen, a, b, read => by
    obtain ⟨key, name, read⟩ := bind_eq_ok read
    have written (other : String) : (Members.member literal d rest).value? other =
        if key = other then some d else rest.value? other := by
      simp [Members.value?, name, Except.toOption]
    split at read
    · next f found =>
      split at read
      · cases read
      · next fresh =>
        obtain ⟨c, first, others⟩ := bind_eq_ok read
        obtain ⟨s, mem, rfl⟩ := List.mem_map.1 (List.mem_of_find?_eq_some found)
        obtain ⟨value, here, rfl⟩ := map_eq_ok first
        have named : s.field.name = key := by simpa using List.find?_some found
        change s.name = key at named
        have later := compose.held_of_readFields rest _ others
        intro t tmem
        by_cases same : t = s
        · subst same
          have kept := (later t mem).1 (named ▸ List.mem_cons_self)
          rw [compose.held t mem] at kept
          refine ⟨fun held => absurd (named ▸ held) (by simpa using fresh), fun _ _ => ⟨d, ?_, kept ▸ here⟩⟩
          rw [written, if_pos named.symm]
        · have apart := compose.apart.forall mem tmem (Ne.symm same)
          have other : t.name ≠ key := named ▸ apart.name.symm
          refine ⟨fun held => ?_, fun new required => ?_⟩
          · rw [(later t tmem).1 (List.mem_cons_of_mem key held), apart.left]
          · rw [written, if_neg other.symm]
            exact (later t tmem).2 (by simp [other, new]) required
    · next unknown =>
      obtain ⟨_, -, read⟩ := bind_eq_ok read
      have later := compose.held_of_readFields rest seen read
      intro t tmem
      refine ⟨(later t tmem).1, fun new required => ?_⟩
      have other : key ≠ t.name := by
        rintro rfl
        simpa [field, Json.field] using List.find?_eq_none.1 unknown t.field (List.mem_map_of_mem tmem)
      rw [written, if_neg other]
      exact (later t tmem).2 new required

theorem Compose.held_of_readOrdered (compose : Compose slots) (wanted : String) {todo : List (Slot α)}
    (known : ∀ s ∈ todo, s ∈ slots) (apart : todo.Pairwise Apart) {items : Items} {count : Nat} {a b : α}
    (read : readOrdered wanted depth count (todo.map field) items a = .ok b) :
    (∀ s ∈ slots, (∀ t ∈ todo, s.Apart t) → s.held b = s.held a) ∧
    ∀ (place : Nat) (s : Slot α), todo[place]? = some s → s.required = true →
      ∃ part, items.toList[place]? = some part ∧ s.reader depth part = .ok (s.held b) := by
  induction todo generalizing items count a with
  | nil =>
    cases items with
    | stop stop =>
      cases stop <;> cases read
      exact ⟨fun _ _ _ => rfl, fun place s found => by simp at found⟩
    | item => cases read
  | cons s todo ih =>
    obtain ⟨here, later⟩ := List.forall_mem_cons.1 known
    obtain ⟨beside, apart⟩ := List.pairwise_cons.1 apart
    cases items with
    | stop stop =>
      obtain ⟨_, -, read⟩ := bind_eq_ok read
      split at read
      · cases read
      · next optional =>
        obtain ⟨kept, held⟩ := ih later apart read
        refine ⟨fun t mem others => kept t mem (List.forall_mem_cons.1 others).2, fun place t found required => ?_⟩
        cases place with
        | zero =>
          cases found
          exact absurd required optional
        | succ place =>
          obtain ⟨part, none, -⟩ := held place t found required
          simp [Items.toList] at none
    | item d rest =>
      obtain ⟨c, update, read⟩ := bind_eq_ok read
      obtain ⟨value, first, rfl⟩ := map_eq_ok update
      obtain ⟨kept, held⟩ := ih later apart read
      refine ⟨fun t mem others => ?_, fun place t found required => ?_⟩
      · obtain ⟨other, others⟩ := List.forall_mem_cons.1 others
        rw [kept t mem others, other.right]
      · cases place with
        | zero =>
          cases found
          refine ⟨d, rfl, ?_⟩
          rw [kept s here beside, compose.held s here]
          exact first
        | succ place => exact held place t found required

theorem Compose.part_of_readStructure (compose : Compose slots) {start a : α} {name : String} {d : Document}
    (read : readStructure name (slots.map field) start depth d = .ok a) {place : Nat} {s : Slot α}
    (found : slots[place]? = some s) (required : s.required = true) :
    ∃ part, d.part? s.name place = some part ∧ s.reader (depth - 1) part = .ok (s.held a) := by
  unfold readStructure at read
  split at read
  · cases read
  · exact (compose.held_of_readOrdered _ (fun _ mem => mem) compose.apart read).2 place s found required
  · cases read
  · have held := compose.held_of_readFields _ [] read s (List.mem_of_getElem? found)
    exact held.2 List.not_mem_nil required
  · exact absurd read (wrongType_ne_ok _ _ _)

end Slot

end Json

namespace Table

open Json

section

variable [Numerals]

def writtenWidths? (d : Document) : Option (Nat × List Nat) := do
  let columns ← d.part? "columns" 0
  let rows ← d.part? "rows" 1
  return (columns.elements.length, rows.elements.map fun row => row.elements.length)

theorem writtenWidths?_of_read {depth : Nat} {d : Document} {t : Table} (read : Table.read depth d = .ok t) :
    writtenWidths? d = some (t.columns.length, t.rows.map List.length) := by
  have first : slots[0]? = some _ := rfl
  have second : slots[1]? = some _ := rfl
  obtain ⟨columns, (columnsPart : d.part? "columns" 0 = some columns),
    (columnsRead : readList readString (depth - 1) columns = .ok t.columns)⟩ :=
      compose_slots.part_of_readStructure read first rfl
  obtain ⟨rows, (rowsPart : d.part? "rows" 1 = some rows),
    (rowsRead : readList (readList Cell.read) (depth - 1) rows = .ok t.rows)⟩ :=
      compose_slots.part_of_readStructure read second rfl
  have size := (forall₂_of_readList columnsRead).length_eq
  have widths : List.Forall₂ (fun row cells => row.elements.length = cells.length) rows.elements t.rows :=
    (forall₂_of_readList rowsRead).imp fun _ _ cells => (forall₂_of_readList cells).length_eq
  have same := forall₂_iff_map_eq.1 widths
  simp only [writtenWidths?, columnsPart, rowsPart, Option.bind_eq_bind, Option.bind_some, size, same]
  rfl

/-- A table that is read has rows as wide as its list of columns just where its text is written so. It can
be drawn just where no row is written longer than the list of columns, and else the width behind the last
column is missing; attributes and columns are found just where no row is written too short for them. -/
theorem readText_wellFormed_iff {s : String} {t : Table} (read : readText Table.read s = .ok t) :
    ∃ columns widths, writtenWidths? (scan s.toList).1 = some (columns, widths) ∧
      (t.WellFormed ↔ ∀ width ∈ widths, width = columns) ∧
      Strict.draw t = (if ∀ width ∈ widths, width ≤ columns then .ok t.draw else .error ⟨columns, columns⟩) ∧
      (Strict.schema t = .ok (.ofTable t) ↔ ∀ width ∈ widths, columns ≤ width) ∧
      ∀ name, Strict.column? t name = .ok (t.column? name) ↔
        ∀ index, t.columnIndex? name = some index → ∀ width ∈ widths, index < width := by
  refine ⟨_, _, writtenWidths?_of_read (read_scan_of_readText read), ?_⟩
  simp only [List.forall_mem_map]
  exact ⟨Iff.rfl, Strict.draw_eq t, Strict.schema_eq_ok_iff t, Strict.column?_eq_ok_iff t⟩

end

theorem readText_wellFormed_iff_of_two :
    letI := Numerals.nearest
    let s := "\x7b\"rows\":[[1,\"a\"],[null,[2]]],\"extra\":5,\"columns\":[\"k\",\"v\"]\x7d"
    ∃ t, readText Table.read s = .ok t ∧ writtenWidths? (scan s.toList).1 = some (2, [2, 2]) ∧
      t.WellFormed ∧ Strict.draw t = .ok t.draw := by
  let _ := Numerals.nearest
  intro s
  have written : writtenWidths? (scan s.toList).1 = some (2, [2, 2]) := by decide +kernel
  have accepted : (readText Table.read s).map (fun _ => ()) = .ok () := by decide +kernel
  obtain ⟨t, read, -⟩ := map_eq_ok accepted
  obtain ⟨columns, widths, shown, wide, drawn, -⟩ := readText_wellFormed_iff read
  cases written.symm.trans shown
  exact ⟨t, read, written, wide.2 (by simp), drawn.trans (if_pos (by simp))⟩

/-- Texts with a row of another width than the list of columns are read as they are, and one with a longer
row cannot be drawn. -/
theorem readText_accepts_ragged :
    letI := Numerals.nearest
    (∃ t, readText Table.read "\x7b\"columns\":[\"a\",\"b\"],\"rows\":[[1]]\x7d" = .ok t ∧ ¬ t.WellFormed) ∧
    ∃ t, readText Table.read "\x7b\"columns\":[\"a\"],\"rows\":[[1,2]]\x7d" = .ok t ∧
      Strict.draw t = .error ⟨1, 1⟩ := by
  let _ := Numerals.nearest
  refine ⟨⟨⟨["a", "b"], [[.int 1]]⟩, ?_, ?_⟩, ⟨["a"], [[.int 1, .int 2]]⟩, ?_, ?_⟩ <;> decide +kernel

end Table

end SolutionCheck
