/-!
Entries under text keys, in the order in which the keys first arrived.
Setting a key that is present keeps its place and takes the new value; a new key goes to the end.
No key stands twice, and the type carries this.
-/

namespace SolutionCheck

/-- Put a value under a key, in place when the key is there and at the end otherwise. -/
def putEntry {α : Type} (key : String) (value : α) : List (String × α) → List (String × α)
  | [] => [(key, value)]
  | (k, v) :: rest => if k = key then (key, value) :: rest else (k, v) :: putEntry key value rest

theorem keys_putEntry {α : Type} (key : String) (value : α) (entries : List (String × α)) :
    (putEntry key value entries).map Prod.fst =
      if key ∈ entries.map Prod.fst then entries.map Prod.fst else entries.map Prod.fst ++ [key] := by
  induction entries with
  | nil => simp [putEntry]
  | cons entry rest ih =>
    by_cases h : entry.1 = key
    · simp [putEntry, h]
    · have h' : ¬ key = entry.1 := fun e => h e.symm
      simp only [putEntry, if_neg h, List.map_cons, ih, List.mem_cons, h', false_or]
      split <;> simp

def valueOf? {α : Type} (entries : List (String × α)) (key : String) : Option α :=
  (entries.find? fun entry => entry.1 = key).map Prod.snd

/-- Entries with distinct keys, in order of arrival. -/
structure Keyed (α : Type) where
  entries : List (String × α)
  nodup : (entries.map Prod.fst).Nodup
deriving DecidableEq

namespace Keyed

variable {α β : Type}

def empty : Keyed α := ⟨[], List.nodup_nil⟩

instance : EmptyCollection (Keyed α) := ⟨empty⟩

instance : Inhabited (Keyed α) := ⟨empty⟩

def keys (t : Keyed α) : List String := t.entries.map Prod.fst

def values (t : Keyed α) : List α := t.entries.map Prod.snd

def get? (t : Keyed α) (key : String) : Option α := valueOf? t.entries key

def contains (t : Keyed α) (key : String) : Bool := t.keys.contains key

def isEmpty (t : Keyed α) : Bool := t.entries.isEmpty

def size (t : Keyed α) : Nat := t.entries.length

def put (t : Keyed α) (key : String) (value : α) : Keyed α where
  entries := putEntry key value t.entries
  nodup := by
    rw [keys_putEntry]
    split
    · exact t.nodup
    · next h =>
      rw [List.nodup_append]
      exact ⟨t.nodup, by simp, by
        intro a ha b hb
        rw [List.mem_singleton] at hb
        exact fun e => h (hb ▸ e ▸ ha)⟩

/-- Put entries one after another: a repeated key keeps its first place and its last value. -/
def ofList (entries : List (String × α)) : Keyed α :=
  entries.foldl (fun t entry => t.put entry.1 entry.2) empty

def erase (t : Keyed α) (key : String) : Keyed α where
  entries := t.entries.filter fun entry => entry.1 ≠ key
  nodup := t.nodup.sublist (List.filter_sublist.map _)

def mapValues (f : α → β) (t : Keyed α) : Keyed β where
  entries := t.entries.map fun entry => (entry.1, f entry.2)
  nodup := by
    have h : (t.entries.map fun entry => (entry.1, f entry.2)).map Prod.fst = t.entries.map Prod.fst := by
      simp [List.map_map, Function.comp_def]
    rw [h]
    exact t.nodup

@[simp] theorem keys_put (t : Keyed α) (key : String) (value : α) :
    (t.put key value).keys = if key ∈ t.keys then t.keys else t.keys ++ [key] :=
  keys_putEntry key value t.entries

end Keyed

end SolutionCheck
