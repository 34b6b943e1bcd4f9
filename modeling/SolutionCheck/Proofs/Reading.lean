import Mathlib.Tactic.MkIffOfInductiveProp
import SolutionCheck.Proofs.Scanning

/-!
Readers of written values. What a reader gives is stable when it returns once it is written: the written
value is within bounds, and all syntax that shows it is read as the value. Lists and keyed collections
are stable when what they hold is. A structure is stable when each of its fields is, for a field that is
stored leaves the others as they were, and storing all of them leaves nothing of the start.
-/

namespace SolutionCheck.Json

variable {α β : Type}

theorem read_scan_of_readText {reader : Reader α} {s : String} {a : α} (read : readText reader s = .ok a) :
    reader maxDepth (scan s.toList).1 = .ok a := by
  unfold readText at read
  generalize scan s.toList = scanned at read ⊢
  obtain ⟨b, first, read⟩ := bind_eq_ok read
  split at read
  · cases read
    exact first
  · cases read

theorem exists_of_readText {reader : Reader α} {s : String} {a : α} (read : readText reader s = .ok a) :
    ∃ d, reader maxDepth d = .ok a :=
  ⟨_, read_scan_of_readText read⟩

variable [Numerals]

/-- The structured value is within bounds, and wherever it stands it is read as the given value. -/
structure Returns (reader : Reader α) (depth : Nat) (j : Json) (a : α) : Prop where
  within : j.Within depth
  reads : ∀ d : Document, d.Shows j → reader depth d = .ok a

/-- Whatever is read returns when it is written. -/
def Stable (reader : Reader α) (write : α → Json) : Prop :=
  ∀ depth d a, reader depth d = .ok a → Returns reader depth (write a) a

/-- Whatever is read of a text is read again of the compact and of the indented text that are written
for it, and written once more as the same texts. -/
def ReadsBack (parse : String → Except Fault α) (toJson : α → Json) : Prop :=
  ∀ s a, parse s = .ok a → ∀ write ∈ [Json.text, Json.indentedText], ∃ again,
    parse (write (toJson a)) = .ok again ∧ again = a ∧ write (toJson again) = write (toJson a)

theorem Returns.readText_ofList {reader : Reader α} {j : Json} {a : α} (returns : Returns reader maxDepth j a)
    {cs : List Char} (writes : Writes cs j) : readText reader (String.ofList cs) = .ok a := by
  obtain ⟨d, scanned, shown⟩ := writes.scan_ofList
  have read := returns.reads d shown
  simp only [readText, scanned, read]
  rfl

theorem readsBack_of_returns (shortest : Numerals.ReadsShortest) {reader : Reader α} {toJson : α → Json}
    (returns : ∀ d a, reader maxDepth d = .ok a → Returns reader maxDepth (toJson a) a) :
    ReadsBack (readText reader) toJson := by
  intro s a read write mem
  obtain ⟨d, found⟩ := exists_of_readText read
  have returns := returns d a found
  refine ⟨a, ?_, rfl, rfl⟩
  simp only [List.mem_cons, List.not_mem_nil, or_false] at mem
  rcases mem with rfl | rfl
  · exact returns.readText_ofList (writes_compact shortest returns.within)
  · exact returns.readText_ofList (writes_indented shortest returns.within 0)

section Plain

theorem wrongType_ne_ok (wanted : String) (d : Document) (a : α) : wrongType wanted d ≠ .ok a := by
  intro read
  unfold wrongType at read
  split at read
  · cases read
  · cases read
  · obtain ⟨j, -, read⟩ := bind_eq_ok read
    cases j <;> cases read

theorem stable_string : Stable readString .string := fun depth _ s _ =>
  ⟨.string depth s, fun _ shown => by cases shown with | string text => exact text⟩

theorem lt_of_readNat {bits depth : Nat} {d : Document} {n : Nat} (read : readNat bits depth d = .ok n) :
    n < Nat.pow 2 bits := by
  unfold readNat at read
  split at read
  · obtain ⟨j, -, read⟩ := bind_eq_ok read
    split at read
    · split at read
      · next fits =>
        cases read
        omega
      · cases read
    · exact absurd read (wrongType_ne_ok _ _ _)
  · exact absurd read (wrongType_ne_ok _ _ _)

theorem returns_nat {bits n : Nat} (depth : Nat) (narrow : bits ≤ 64) (fits : n < Nat.pow 2 bits) :
    Returns (readNat bits) depth (.int n) n where
  within := by
    have most : Nat.pow 2 bits ≤ Nat.pow 2 64 := Nat.pow_le_pow_right Nat.two_pos narrow
    exact .int depth (by omega) (by omega)
  reads := by
    intro d shown
    have inside : (n : Int) < (Nat.pow 2 bits : Nat) := Int.ofNat_lt.2 fits
    cases shown with
    | int value =>
      simp only [readNat, value]
      exact if_pos ⟨Int.natCast_nonneg n, inside⟩

theorem stable_nat {bits : Nat} (narrow : bits ≤ 64) : Stable (readNat bits) fun n => .int n :=
  fun depth _ _ read => returns_nat depth narrow (lt_of_readNat read)

theorem stable_value : Stable readValue fun j => j := fun depth d _ read =>
  have within := within_of_readValue depth d read
  ⟨within, readValue_of_shows within⟩

end Plain

section Collections

variable {reader : Reader α} {write : α → Json}

theorem Stable.list (stable : Stable reader write) :
    Stable (readList reader) fun as => .array (as.map write) := by
  intro depth d as read
  unfold readList at read
  split at read
  · cases read
  · next depth items =>
    have each (a : α) (mem : a ∈ as) : Returns reader depth (write a) a := by
      obtain ⟨d, read⟩ := exists_of_readItems items read a mem
      exact stable depth d a read
    refine ⟨.array fun item mem => ?_, fun d shown => ?_⟩
    · obtain ⟨a, held, rfl⟩ := List.mem_map.1 mem
      exact (each a held).within
    · cases shown with
      | array items => exact readItems_of_shows items fun a mem => (each a mem).reads
  · exact absurd read (wrongType_ne_ok _ _ _)

theorem Stable.keyed (stable : Stable reader write) : Stable (readKeyed reader) (ofKeyed write) := by
  intro depth d t read
  unfold readKeyed at read
  split at read
  · cases read
  · next depth members =>
    obtain ⟨arrived, found, rfl⟩ := map_eq_ok read
    have each (entry : String × α) (mem : entry ∈ (Keyed.ofList arrived).entries) :
        Returns reader depth (write entry.2) entry.2 := by
      obtain ⟨d, read⟩ := exists_of_readMembers members found entry (Keyed.mem_of_mem_ofList mem)
      exact stable depth d entry.2 read
    refine ⟨.object ((Keyed.ofList arrived).mapValues write).nodup fun member mem => ?_, fun d shown => ?_⟩
    · obtain ⟨entry, held, rfl⟩ := List.mem_map.1 mem
      exact (each entry held).within
    · cases shown with
      | object members =>
        rw [readKeyed, readMembers_of_shows members fun entry mem => (each entry mem).reads]
        -- the keys that are written are distinct, so none of them is put in twice
        exact congrArg Except.ok (Keyed.eq_of_entries (Keyed.entries_ofList (Keyed.ofList arrived).nodup))
  · exact absurd read (wrongType_ne_ok _ _ _)

end Collections

/-- A field of a structure, with what is held in it and what is written for that. -/
structure Slot (α : Type) where
  {β : Type}
  name : String
  required : Bool
  reader : Reader β
  store : α → β → α
  held : α → β
  write : β → Json

namespace Slot

def field (s : Slot α) : Field α := Json.field s.name s.required s.reader s.store

def member (s : Slot α) (a : α) : String × Json := (s.name, s.write (s.held a))

def Settled (s : Slot α) (depth : Nat) (a : α) : Prop := Returns s.reader depth (s.write (s.held a)) (s.held a)

/-- The fields have different names, and storing one leaves the other as it was. -/
@[mk_iff]
structure Apart (s t : Slot α) : Prop where
  name : s.name ≠ t.name
  left : ∀ a b, t.held (s.store a b) = t.held a
  right : ∀ a b, s.held (t.store a b) = s.held a

instance : Std.Symm (@Apart α) := ⟨fun _ _ apart => ⟨apart.name.symm, apart.right, apart.left⟩⟩

/-- The fields make up a value, each for itself, and what each of them reads is stable. -/
structure Compose (slots : List (Slot α)) : Prop where
  apart : slots.Pairwise Apart
  held : ∀ s ∈ slots, ∀ a b, s.held (s.store a b) = b
  ext : ∀ a b, (∀ s ∈ slots, s.held a = s.held b) → a = b
  stable : ∀ s ∈ slots, Stable s.reader s.write

variable {slots : List (Slot α)} {depth : Nat}

theorem Compose.settled_update (compose : Compose slots) {s : Slot α} (mem : s ∈ slots) {d : Document} {a b : α}
    (settled : ∀ t ∈ slots, t.Settled depth a) (read : s.field.update depth d a = .ok b) :
    ∀ t ∈ slots, t.Settled depth b := by
  obtain ⟨value, first, rfl⟩ := map_eq_ok read
  intro t tmem
  by_cases same : t = s
  · subst same
    rw [Settled, compose.held t mem]
    exact compose.stable t mem depth d value first
  · have apart := compose.apart.forall mem tmem (Ne.symm same)
    rw [Settled, apart.left]
    exact settled t tmem

theorem Compose.settled_of_readFields (compose : Compose slots) : (members : Members) → (seen : List String) →
    {a b : α} → (∀ s ∈ slots, s.Settled depth a) →
    readFields (slots.map field) depth seen members a = .ok b → ∀ s ∈ slots, s.Settled depth b
  | .stop _, _, a, b, settled, read => by
    obtain ⟨_, -, read⟩ := bind_eq_ok read
    split at read
    · cases read
    · cases read
      exact settled
  | .badKey _, _, _, _, _, read => by cases read
  | .bareKey _ _, _, _, _, _, read => by
    obtain ⟨_, -, read⟩ := bind_eq_ok read
    split at read <;> cases read
  | .member _ d rest, seen, a, b, settled, read => by
    obtain ⟨key, -, read⟩ := bind_eq_ok read
    split at read
    · next f found =>
      split at read
      · cases read
      · obtain ⟨c, first, others⟩ := bind_eq_ok read
        obtain ⟨s, mem, rfl⟩ := List.mem_map.1 (List.mem_of_find?_eq_some found)
        exact compose.settled_of_readFields rest _ (compose.settled_update mem settled first) others
    · obtain ⟨_, -, read⟩ := bind_eq_ok read
      exact compose.settled_of_readFields rest seen settled read

theorem Compose.settled_of_readOrdered (compose : Compose slots) (wanted : String) {todo : List (Slot α)}
    (known : ∀ s ∈ todo, s ∈ slots) {items : Items} {count : Nat} {a b : α}
    (settled : ∀ s ∈ slots, s.Settled depth a)
    (read : readOrdered wanted depth count (todo.map field) items a = .ok b) :
    ∀ s ∈ slots, s.Settled depth b := by
  induction todo generalizing items count a with
  | nil =>
    cases items with
    | stop stop =>
      cases stop <;> cases read
      exact settled
    | item => cases read
  | cons s todo ih =>
    obtain ⟨here, later⟩ := List.forall_mem_cons.1 known
    cases items with
    | stop stop =>
      obtain ⟨_, -, read⟩ := bind_eq_ok read
      split at read
      · cases read
      · exact ih later settled read
    | item d rest =>
      obtain ⟨c, first, read⟩ := bind_eq_ok read
      exact ih later (compose.settled_update here settled first) read

omit [Numerals] in
theorem find?_field {done todo : List (Slot α)} {s : Slot α} (apart : (done ++ s :: todo).Pairwise Apart) :
    ((done ++ s :: todo).map field).find? (fun f => f.name = s.name) = some s.field := by
  have earlier : (done.map field).find? (fun f => f.name = s.name) = none := by
    refine List.find?_eq_none.2 fun f mem same => ?_
    obtain ⟨t, tmem, rfl⟩ := List.mem_map.1 mem
    exact ((List.pairwise_append.1 apart).2.2 t tmem s List.mem_cons_self).name (of_decide_eq_true same)
  have here : s.field.name = s.name := rfl
  simp [earlier, here]

theorem Compose.readFields_of_shows (compose : Compose slots) {a : α} (settled : ∀ s ∈ slots, s.Settled depth a)
    {done todo : List (Slot α)} (split : slots = done ++ todo) {seen : List String}
    (passed : ∀ key, key ∈ seen ↔ key ∈ done.map name) {b : α} (stored : ∀ s ∈ done, s.held b = s.held a)
    {members : Members} (shown : members.Shows (todo.map fun s => s.member a)) :
    readFields (slots.map field) depth seen members b = .ok a := by
  -- the fields that are passed hold what is written; the others may still hold anything
  induction todo generalizing done seen b members with
  | nil =>
    cases shown
    rw [List.append_nil] at split
    subst split
    have none : (slots.map field).find? (fun f => f.required && !seen.contains f.name) = none := by
      refine List.find?_eq_none.2 fun f mem => ?_
      obtain ⟨s, smem, rfl⟩ := List.mem_map.1 mem
      have present : s.field.name ∈ seen := (passed s.name).2 (List.mem_map_of_mem smem)
      simp [present]
    simp only [readFields, none, compose.ext b a stored]
    rfl
  | cons s todo ih =>
    have apart := split ▸ compose.apart
    have mem : s ∈ slots := by simp [split]
    have earlier := (List.pairwise_append.1 apart).2.2
    have fresh : ¬ seen.contains s.name = true := by
      rw [List.contains_iff_mem, passed, List.mem_map]
      rintro ⟨t, tmem, same⟩
      exact (earlier t tmem s List.mem_cons_self).name same
    cases shown with
    | @member literal _ d rest _ _ name first others =>
      have update : s.field.update depth d b = .ok (s.store b (s.held a)) :=
        congrArg (Except.map (s.store b)) ((settled s mem).reads d first)
      have found : (slots.map field).find? (fun f => f.name = s.name) = some s.field := by
        rw [split]
        exact find?_field apart
      rw [readFields, name]
      simp only [found, bind, Except.bind, if_neg fresh, update]
      refine ih (show slots = (done ++ [s]) ++ todo by simp [split]) (fun key => ?_) (fun t tmem => ?_) others
      · simp [passed, or_comm]
      · rcases List.mem_append.1 tmem with tmem | tmem
        · rw [(earlier t tmem s List.mem_cons_self).right, stored t tmem]
        · rw [List.mem_singleton.1 tmem, compose.held s mem]

theorem Compose.settled_of_readStructure (compose : Compose slots) {start a : α}
    (settled : ∀ s ∈ slots, s.Settled (depth - 1) start) {name : String} {d : Document}
    (read : readStructure name (slots.map field) start depth d = .ok a) :
    0 < depth ∧ ∀ s ∈ slots, s.Settled (depth - 1) a := by
  unfold readStructure at read
  split at read
  · cases read
  · exact ⟨Nat.succ_pos _, compose.settled_of_readOrdered _ (fun _ mem => mem) settled read⟩
  · cases read
  · exact ⟨Nat.succ_pos _, compose.settled_of_readFields _ [] settled read⟩
  · exact absurd read (wrongType_ne_ok _ _ _)

theorem Compose.returns (compose : Compose slots) {start a : α}
    (settled : ∀ s ∈ slots, s.Settled (depth - 1) start) {name : String} {d : Document}
    (read : readStructure name (slots.map field) start depth d = .ok a) :
    Returns (readStructure name (slots.map field) start) depth (.object (slots.map fun s => s.member a)) a := by
  obtain ⟨positive, kept⟩ := compose.settled_of_readStructure settled read
  obtain ⟨depth, rfl⟩ := Nat.exists_eq_add_one_of_ne_zero (Nat.ne_of_gt positive)
  refine ⟨.object ?_ fun member mem => ?_, fun d shown => ?_⟩
  · rw [List.map_map]
    exact compose.apart.map _ fun _ _ apart => apart.name
  · obtain ⟨s, smem, rfl⟩ := List.mem_map.1 mem
    exact (kept s smem).within
  · cases shown with
    | object members =>
      exact compose.readFields_of_shows kept (List.nil_append slots).symm (fun _ => Iff.rfl) (by simp) members

theorem Compose.stable_structure (compose : Compose slots) {start : α}
    (settled : ∀ depth, ∀ s ∈ slots, s.Settled depth start) (name : String) :
    Stable (readStructure name (slots.map field) start) fun a => .object (slots.map fun s => s.member a) :=
  fun depth _ _ read => compose.returns (settled (depth - 1)) read

end Slot

end SolutionCheck.Json
