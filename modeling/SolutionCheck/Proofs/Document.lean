import SolutionCheck.Proofs.Keyed
import SolutionCheck.Proofs.DocumentNumber
import SolutionCheck.Proofs.Result

/-!
Values in documents. The syntax shows a value when its numerals and literals have the numbers and texts
of the value and nothing is broken off. The values that can be read are those within bounds: integers of
64 bits, signed or not, finite floats, distinct keys, and no more levels than may be opened. Syntax that
shows such a value is read as that value.
-/

namespace SolutionCheck

namespace Json

/-- The value is one that can be read with so many levels to open. -/
inductive Within : Nat → Json → Prop
  | null (depth : Nat) : Within depth .null
  | bool (depth : Nat) (b : Bool) : Within depth (.bool b)
  | int (depth : Nat) {n : Int} (least : -(Nat.pow 2 63 : Nat) ≤ n) (most : n < (Nat.pow 2 64 : Nat)) :
      Within depth (.int n)
  | float (depth : Nat) {x : Binary64} (finite : x.isFinite = true) : Within depth (.float x)
  | string (depth : Nat) (s : String) : Within depth (.string s)
  | array {depth : Nat} {items : List Json} (all : ∀ item ∈ items, Within depth item) :
      Within (depth + 1) (.array items)
  | object {depth : Nat} {members : List (String × Json)} (distinct : (members.map Prod.fst).Nodup)
      (all : ∀ member ∈ members, Within depth member.2) : Within (depth + 1) (.object members)

section Elements

variable {α : Type} {read : Document → Except Fault α}

theorem exists_of_readItems : (items : Items) → {as : List α} → readItems read items = .ok as →
    ∀ a ∈ as, ∃ d, read d = .ok a
  | .stop _, _, done => by
    obtain ⟨_, -, same⟩ := bind_eq_ok done
    cases same
    exact fun _ mem => absurd mem List.not_mem_nil
  | .item d rest, _, done => by
    obtain ⟨a, first, done⟩ := bind_eq_ok done
    obtain ⟨as, others, same⟩ := bind_eq_ok done
    cases same
    exact List.forall_mem_cons.2 ⟨⟨d, first⟩, exists_of_readItems rest others⟩

theorem exists_of_readMembers : (members : Members) → {entries : List (String × α)} →
    readMembers read members = .ok entries → ∀ entry ∈ entries, ∃ d, read d = .ok entry.2
  | .stop _, _, done => by
    obtain ⟨_, -, same⟩ := bind_eq_ok done
    cases same
    exact fun _ mem => absurd mem List.not_mem_nil
  | .badKey _, _, done => by cases done
  | .bareKey _ _, _, done => by
    obtain ⟨_, -, fault⟩ := bind_eq_ok done
    cases fault
  | .member _ d rest, _, done => by
    obtain ⟨name, -, done⟩ := bind_eq_ok done
    obtain ⟨a, first, done⟩ := bind_eq_ok done
    obtain ⟨entries, others, same⟩ := bind_eq_ok done
    cases same
    exact List.forall_mem_cons.2 ⟨⟨d, first⟩, exists_of_readMembers rest others⟩

end Elements

theorem ofMembers_eq (members : List (String × Json)) :
    ofMembers members = .object (Keyed.ofList members).entries := by
  rw [ofMembers, Keyed.ofList, Keyed.entries_foldl_put_eq]
  rfl

variable [Numerals]

mutual

inductive Document.Shows : Document → Json → Prop
  | null : Document.Shows .null .null
  | bool (b : Bool) : Document.Shows (.bool b) (.bool b)
  | int {numeral : Numeral} {n : Int} (value : numeral.value = .ok (.int n)) :
    Document.Shows (.number numeral) (.int n)
  | float {numeral : Numeral} {x : Binary64} (value : numeral.value = .ok (.float x)) :
    Document.Shows (.number numeral) (.float x)
  | string {literal : Literal} {s : String} (text : literal.text = .ok s) :
    Document.Shows (.string literal) (.string s)
  | array {items : Items} {values : List Json} (all : Items.Shows items values) :
    Document.Shows (.array items) (.array values)
  | object {members : Members} {entries : List (String × Json)} (all : Members.Shows members entries) :
    Document.Shows (.object members) (.object entries)

/-- The elements stand for the values, and nothing is amiss behind them. -/
inductive Items.Shows : Items → List Json → Prop
  | closed : Items.Shows (.stop .closed) []
  | item {d : Document} {rest : Items} {value : Json} {values : List Json}
    (first : Document.Shows d value) (others : Items.Shows rest values) :
    Items.Shows (.item d rest) (value :: values)

/-- The members stand for the entries, and nothing is amiss behind them. -/
inductive Members.Shows : Members → List (String × Json) → Prop
  | closed : Members.Shows (.stop .closed) []
  | member {literal : Literal} {key : String} {d : Document} {rest : Members} {value : Json}
    {entries : List (String × Json)} (name : literal.text = .ok key) (first : Document.Shows d value)
    (others : Members.Shows rest entries) : Members.Shows (.member literal d rest) ((key, value) :: entries)

end

section Elements

variable {α : Type} {read : Document → Except Fault α} {write : α → Json}

theorem readItems_of_shows {items : Items} {as : List α} (shown : items.Shows (as.map write))
    (each : ∀ a ∈ as, ∀ d : Document, d.Shows (write a) → read d = .ok a) : readItems read items = .ok as := by
  induction as generalizing items with
  | nil =>
    cases shown
    rfl
  | cons a as ih =>
    obtain ⟨here, later⟩ := List.forall_mem_cons.1 each
    cases shown with
    | item first others =>
      rw [readItems, here _ first, ih others later]
      rfl

theorem readMembers_of_shows {members : Members} {entries : List (String × α)}
    (shown : members.Shows (entries.map fun entry => (entry.1, write entry.2)))
    (each : ∀ entry ∈ entries, ∀ d : Document, d.Shows (write entry.2) → read d = .ok entry.2) :
    readMembers read members = .ok entries := by
  induction entries generalizing members with
  | nil =>
    cases shown
    rfl
  | cons entry entries ih =>
    obtain ⟨here, later⟩ := List.forall_mem_cons.1 each
    cases shown with
    | member name first others =>
      rw [readMembers, name, here _ first, ih others later]
      rfl

end Elements

theorem readValues_eq (depth : Nat) : (items : Items) → readValues depth items = readItems (readValue depth) items
  | .stop _ => rfl
  | .item _ rest => by rw [readValues, readItems, readValues_eq depth rest]

theorem readEntries_eq (depth : Nat) : (members : Members) →
    readEntries depth members = readMembers (readValue depth) members
  | .stop _ => rfl
  | .badKey _ => rfl
  | .bareKey _ _ => rfl
  | .member _ _ rest => by rw [readEntries, readMembers, readEntries_eq depth rest]

theorem readValue_of_shows {depth : Nat} {j : Json} (within : j.Within depth) (d : Document)
    (shown : d.Shows j) : readValue depth d = .ok j := by
  induction within generalizing d with
  | null => cases shown; rfl
  | bool => cases shown; rfl
  | int => cases shown with | int value => exact value
  | float => cases shown with | float value => exact value
  | string => cases shown with | string text => rw [readValue, text]; rfl
  | @array _ values all ih =>
    cases shown with
    | array items =>
      have plain : values.map id = values := List.map_id values
      rw [readValue, readValues_eq, readItems_of_shows (plain.symm ▸ items) ih]
      rfl
  | @object _ entries distinct all ih =>
    cases shown with
    | object members =>
      have plain : entries.map (fun entry => (entry.1, id entry.2)) = entries := List.map_id entries
      rw [readValue, readEntries_eq, readMembers_of_shows (plain.symm ▸ members) ih]
      exact congrArg Except.ok ((ofMembers_eq _).trans (by rw [Keyed.entries_ofList distinct]))

theorem within_of_value {numeral : Numeral} {j : Json} (depth : Nat) (read : numeral.value = .ok j) :
    j.Within depth := by
  unfold Numeral.value at read
  split at read
  · next fits =>
    cases read
    refine .int depth ?_ ?_ <;> have := fits.2.2 <;> omega
  · split at read
    · next fits =>
      cases read
      refine .int depth ?_ ?_ <;> have := fits.2.2.2 <;> omega
    · split at read
      · next found =>
        cases read
        exact .float depth (Numerals.finite found)
      · cases read

mutual

theorem within_of_readValue : (depth : Nat) → (d : Document) → {j : Json} → readValue depth d = .ok j →
    j.Within depth
  | depth, .missing, _, read => by cases read
  | depth, .stray, _, read => by cases read
  | depth, .brokenWord _, _, read => by cases read
  | depth, .brokenNumber _, _, read => by cases read
  | depth, .null, _, read => by
    cases read
    exact .null depth
  | depth, .bool b, _, read => by
    cases read
    exact .bool depth b
  | depth, .number _, _, read => within_of_value depth read
  | depth, .string _, _, read => by
    obtain ⟨s, -, rfl⟩ := map_eq_ok read
    exact .string depth s
  | 0, .array _, _, read => by cases read
  | depth + 1, .array items, _, read => by
    obtain ⟨values, all, rfl⟩ := map_eq_ok read
    exact .array (within_of_readValues depth items all)
  | 0, .object _, _, read => by cases read
  | depth + 1, .object members, _, read => by
    obtain ⟨entries, all, rfl⟩ := map_eq_ok read
    rw [ofMembers_eq]
    exact .object (Keyed.ofList entries).nodup fun entry mem =>
      within_of_readEntries depth members all entry (Keyed.mem_of_mem_ofList mem)

theorem within_of_readValues : (depth : Nat) → (items : Items) → {values : List Json} →
    readValues depth items = .ok values → ∀ value ∈ values, value.Within depth
  | depth, .stop _, _, read => by
    obtain ⟨_, -, same⟩ := bind_eq_ok read
    cases same
    exact fun _ mem => absurd mem List.not_mem_nil
  | depth, .item d rest, _, read => by
    obtain ⟨value, first, read⟩ := bind_eq_ok read
    obtain ⟨values, others, same⟩ := bind_eq_ok read
    cases same
    exact List.forall_mem_cons.2
      ⟨within_of_readValue depth d first, within_of_readValues depth rest others⟩

theorem within_of_readEntries : (depth : Nat) → (members : Members) → {entries : List (String × Json)} →
    readEntries depth members = .ok entries → ∀ entry ∈ entries, entry.2.Within depth
  | depth, .stop _, _, read => by
    obtain ⟨_, -, same⟩ := bind_eq_ok read
    cases same
    exact fun _ mem => absurd mem List.not_mem_nil
  | depth, .badKey _, _, read => by cases read
  | depth, .bareKey _ _, _, read => by
    obtain ⟨_, -, fault⟩ := bind_eq_ok read
    cases fault
  | depth, .member key d rest, _, read => by
    obtain ⟨name, -, read⟩ := bind_eq_ok read
    obtain ⟨value, first, read⟩ := bind_eq_ok read
    obtain ⟨entries, others, same⟩ := bind_eq_ok read
    cases same
    exact List.forall_mem_cons.2
      ⟨within_of_readValue depth d first, within_of_readEntries depth rest others⟩

end

end Json

end SolutionCheck
