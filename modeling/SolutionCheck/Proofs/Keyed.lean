import Mathlib.Data.List.Nodup
import Mathlib.Data.List.Perm.Subperm
import SolutionCheck.Keyed

/-!
Entries under distinct keys. Putting in entries whose keys are new keeps them as they arrive. What is
found under a key is the entry with that key, wherever it stands, so the order of the entries plays no
part in a lookup.
-/

namespace SolutionCheck

variable {α : Type}

theorem putEntry_of_not_mem {key : String} {value : α} {entries : List (String × α)}
    (fresh : key ∉ entries.map Prod.fst) : putEntry key value entries = entries ++ [(key, value)] := by
  induction entries with
  | nil => rfl
  | cons entry rest ih =>
    rw [List.map_cons, List.mem_cons, not_or] at fresh
    rw [putEntry, if_neg (Ne.symm fresh.1), ih fresh.2, List.cons_append]

theorem mem_putEntry {key : String} {value : α} {entries : List (String × α)} {entry : String × α}
    (mem : entry ∈ putEntry key value entries) : entry = (key, value) ∨ entry ∈ entries := by
  induction entries with
  | nil => exact .inl (List.mem_singleton.1 mem)
  | cons first rest ih =>
    rw [putEntry] at mem
    split at mem
    · rcases List.mem_cons.1 mem with same | mem
      · exact .inl same
      · exact .inr (List.mem_cons_of_mem first mem)
    · rcases List.mem_cons.1 mem with same | mem
      · exact .inr (same ▸ List.mem_cons_self)
      · exact (ih mem).imp id (List.mem_cons_of_mem first)

namespace Keyed

theorem entries_foldl_put {entries : List (String × α)} (t : Keyed α)
    (distinct : (entries.map Prod.fst).Nodup)
    (fresh : ∀ key ∈ entries.map Prod.fst, key ∉ t.keys) :
    (entries.foldl (fun t entry => t.put entry.1 entry.2) t).entries = t.entries ++ entries := by
  induction entries generalizing t with
  | nil => exact (List.append_nil _).symm
  | cons entry rest ih =>
    obtain ⟨new, distinct⟩ := List.nodup_cons.1 distinct
    have absent : entry.1 ∉ t.keys := fresh entry.1 List.mem_cons_self
    have put : (t.put entry.1 entry.2).entries = t.entries ++ [entry] := putEntry_of_not_mem absent
    rw [List.foldl_cons, ih _ distinct, put, List.append_assoc, List.singleton_append]
    intro key mem
    rw [keys_put, if_neg absent, List.mem_append, List.mem_singleton, not_or]
    refine ⟨fresh key (List.mem_cons_of_mem _ mem), ?_⟩
    rintro rfl
    exact new mem

theorem entries_ofList {entries : List (String × α)} (distinct : (entries.map Prod.fst).Nodup) :
    (ofList entries).entries = entries :=
  entries_foldl_put empty distinct fun _ _ => List.not_mem_nil

theorem entries_foldl_put_eq (members : List (String × α)) (t : Keyed α) :
    (members.foldl (fun t entry => t.put entry.1 entry.2) t).entries =
      members.foldl (fun entries member => putEntry member.1 member.2 entries) t.entries := by
  induction members generalizing t with
  | nil => rfl
  | cons member members ih => exact ih _

theorem mem_foldl_put {members : List (String × α)} {t : Keyed α} {entry : String × α}
    (mem : entry ∈ (members.foldl (fun t entry => t.put entry.1 entry.2) t).entries) :
    entry ∈ t.entries ∨ entry ∈ members := by
  induction members generalizing t with
  | nil => exact .inl mem
  | cons member members ih =>
    rcases ih mem with held | later
    · exact (mem_putEntry held).elim (fun same => .inr (same ▸ List.mem_cons_self)) .inl
    · exact .inr (List.mem_cons_of_mem member later)

theorem mem_of_mem_ofList {members : List (String × α)} {entry : String × α}
    (mem : entry ∈ (ofList members).entries) : entry ∈ members :=
  (mem_foldl_put mem).elim (fun none => absurd none List.not_mem_nil) id

theorem mem_keys_foldl_put {members : List (String × α)} {t : Keyed α} {key : String} :
    key ∈ (members.foldl (fun t entry => t.put entry.1 entry.2) t).keys ↔
      key ∈ t.keys ∨ key ∈ members.map Prod.fst := by
  induction members generalizing t with
  | nil => simp
  | cons member members ih =>
    have put : key ∈ (t.put member.1 member.2).keys ↔ key ∈ t.keys ∨ key = member.1 := by
      rw [keys_put]
      split
      · next present => exact ⟨.inl, fun held => held.elim id fun same => same ▸ present⟩
      · simp
    rw [List.foldl_cons, ih, put, List.map_cons, List.mem_cons, or_assoc]

theorem mem_keys_ofList {members : List (String × α)} {key : String} :
    key ∈ (ofList members).keys ↔ key ∈ members.map Prod.fst :=
  mem_keys_foldl_put.trans (or_iff_right List.not_mem_nil)

theorem eq_of_entries {s t : Keyed α} (same : s.entries = t.entries) : s = t := by
  cases s
  cases t
  cases same
  rfl

def SameKeys (s t : Keyed α) : Prop := ∀ key, key ∈ s.keys ↔ key ∈ t.keys

theorem sameKeys_iff_perm (s t : Keyed α) : s.SameKeys t ↔ s.keys.Perm t.keys :=
  (List.perm_ext_iff_of_nodup s.nodup t.nodup).symm

instance (s t : Keyed α) : Decidable (s.SameKeys t) :=
  decidable_of_iff (s.keys.Perm t.keys) (sameKeys_iff_perm s t).symm

theorem get?_eq_some_iff (t : Keyed α) (key : String) (value : α) :
    t.get? key = some value ↔ (key, value) ∈ t.entries := by
  obtain ⟨entries, distinct⟩ := t
  rw [get?]
  induction entries with
  | nil => simp [valueOf?]
  | cons entry rest ih =>
    obtain ⟨new, distinct⟩ := List.nodup_cons.1 distinct
    by_cases here : entry.1 = key
    · have absent : (key, value) ∉ rest := fun mem => new (here ▸ List.mem_map_of_mem mem)
      simp [valueOf?, here, absent, Prod.ext_iff, eq_comm]
    · have other : (key, value) ≠ entry := fun same => here (same ▸ rfl)
      simpa [valueOf?, here, other] using ih distinct

theorem get?_eq_of_perm {s t : Keyed α} (perm : s.entries.Perm t.entries) : s.get? = t.get? := by
  funext key
  apply Option.ext
  intro value
  rw [get?_eq_some_iff, get?_eq_some_iff, perm.mem_iff]

theorem some_getD_get? {t : Keyed α} {key : String} (present : key ∈ t.keys) (other : α) :
    some ((t.get? key).getD other) = t.get? key := by
  obtain ⟨entry, mem, rfl⟩ := List.mem_map.1 present
  rw [(get?_eq_some_iff t entry.1 entry.2).2 mem, Option.getD_some]

theorem get?_eq_none_iff (t : Keyed α) (key : String) : t.get? key = none ↔ key ∉ t.keys := by
  rw [Option.eq_none_iff_forall_ne_some]
  simp [get?_eq_some_iff, keys]

theorem valueOf?_cons (entry : String × α) (rest : List (String × α)) (key : String) :
    valueOf? (entry :: rest) key = if entry.1 = key then some entry.2 else valueOf? rest key := by
  by_cases here : entry.1 = key <;> simp [valueOf?, here]

theorem valueOf?_putEntry (key : String) (value : α) (entries : List (String × α)) (other : String) :
    valueOf? (putEntry key value entries) other = if key = other then some value else valueOf? entries other := by
  induction entries with
  | nil => exact valueOf?_cons (key, value) [] other
  | cons entry rest ih =>
    rw [putEntry]
    split
    · next here =>
      subst here
      rw [valueOf?_cons, valueOf?_cons]
      split <;> rfl
    · next here =>
      rw [valueOf?_cons, valueOf?_cons, ih]
      by_cases same : key = other
      · have apart : ¬ entry.1 = other := fun found => here (found.trans same.symm)
        rw [if_neg apart, if_pos same, if_pos same]
      · rw [if_neg same, if_neg same]

theorem get?_put (t : Keyed α) (key : String) (value : α) (other : String) :
    (t.put key value).get? other = if key = other then some value else t.get? other :=
  valueOf?_putEntry key value t.entries other

theorem valueOf?_append (entries others : List (String × α)) (key : String) :
    valueOf? (entries ++ others) key = (valueOf? entries key).or (valueOf? others key) := by
  rw [valueOf?, List.find?_append, Option.map_or]
  rfl

theorem get?_foldl_put (entries : List (String × α)) (t : Keyed α) (key : String) :
    (entries.foldl (fun t entry => t.put entry.1 entry.2) t).get? key =
      (valueOf? entries.reverse key).or (t.get? key) := by
  induction entries generalizing t with
  | nil => rfl
  | cons entry rest ih =>
    rw [List.foldl_cons, ih, get?_put, List.reverse_cons, valueOf?_append, Option.or_assoc]
    by_cases same : entry.1 = key <;> simp [valueOf?, same]

theorem get?_ofList (entries : List (String × α)) (key : String) :
    (ofList entries).get? key = valueOf? entries.reverse key :=
  (get?_foldl_put entries empty key).trans Option.or_none

theorem valueOf?_mapValues {β : Type} (f : α → β) (t : Keyed α) (key : String) :
    valueOf? (t.mapValues f).entries key = (t.get? key).map f := by
  rw [mapValues, valueOf?, List.find?_map, Option.map_map, get?, valueOf?, Option.map_map]
  rfl

theorem keys_mapValues {β : Type} (f : α → β) (t : Keyed α) : (t.mapValues f).keys = t.keys := by
  rw [keys, mapValues, List.map_map]
  rfl

end Keyed

end SolutionCheck
