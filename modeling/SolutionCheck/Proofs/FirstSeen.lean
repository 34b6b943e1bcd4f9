import Mathlib.Data.List.Nodup
import Mathlib.Data.List.Pairwise
import SolutionCheck.Answer

/-!
The columns of records. A scan goes through the keys of all records and keeps a key unless it has kept
it before. What it keeps is determined by what it has gone through: the keys met so far, without
repetition, in the order in which they appeared first.
-/

namespace SolutionCheck

/-- A key joins the keys that were seen before, unless it is one of them. -/
def addKey (keys : List String) (key : String) : List String :=
  if keys.contains key then keys else keys ++ [key]

/-- The keys of a scan, in the order in which they first appear in it. -/
structure FirstSeen (scanned keys : List String) : Prop where
  mem : ∀ key, key ∈ keys ↔ key ∈ scanned
  order : keys.Pairwise fun a b => scanned.idxOf a < scanned.idxOf b

namespace FirstSeen

variable {scanned keys : List String}

theorem nil : FirstSeen [] [] := ⟨fun _ => Iff.rfl, .nil⟩

theorem of_nodup (distinct : keys.Nodup) : FirstSeen keys keys where
  mem _ := Iff.rfl
  order := by
    rw [List.pairwise_iff_getElem]
    intro i j hi hj before
    rwa [distinct.idxOf_getElem, distinct.idxOf_getElem]

theorem nodup (seen : FirstSeen scanned keys) : keys.Nodup := by
  refine seen.order.imp fun before same => ?_
  subst same
  exact Nat.lt_irrefl _ before

theorem append_known (seen : FirstSeen scanned keys) {others : List String}
    (known : ∀ key ∈ others, key ∈ scanned) : FirstSeen (scanned ++ others) keys where
  mem key := by
    rw [List.mem_append, seen.mem]
    exact ⟨Or.inl, fun mem => mem.elim id (known key)⟩
  order := by
    refine seen.order.imp_of_mem fun ha hb before => ?_
    rwa [List.idxOf_append_of_mem ((seen.mem _).1 ha), List.idxOf_append_of_mem ((seen.mem _).1 hb)]

theorem append_fresh (seen : FirstSeen scanned keys) {key : String} (fresh : key ∉ scanned) :
    FirstSeen (scanned ++ [key]) (keys ++ [key]) where
  mem other := by rw [List.mem_append, List.mem_append, seen.mem]
  order := by
    have last : (scanned ++ [key]).idxOf key = scanned.length := by
      simp [List.idxOf_append_of_notMem fresh]
    have kept (a : String) (ha : a ∈ keys) : (scanned ++ [key]).idxOf a = scanned.idxOf a :=
      List.idxOf_append_of_mem ((seen.mem a).1 ha)
    refine List.pairwise_append.2 ⟨?_, List.pairwise_singleton _ _, fun a ha b hb => ?_⟩
    · refine seen.order.imp_of_mem fun ha hb before => ?_
      rwa [kept _ ha, kept _ hb]
    · rw [List.mem_singleton.1 hb, last, kept a ha]
      exact List.idxOf_lt_length_iff.2 ((seen.mem a).1 ha)

theorem add (seen : FirstSeen scanned keys) (key : String) :
    FirstSeen (scanned ++ [key]) (addKey keys key) := by
  unfold addKey
  split
  · next found =>
    refine seen.append_known fun other mem => ?_
    rw [List.mem_singleton.1 mem, ← seen.mem]
    exact List.contains_iff_mem.1 found
  · next absent =>
    refine seen.append_fresh fun mem => absent ?_
    exact List.contains_iff_mem.2 ((seen.mem key).2 mem)

theorem foldl_addKey (seen : FirstSeen scanned keys) (others : List String) :
    FirstSeen (scanned ++ others) (others.foldl addKey keys) := by
  -- the scan so far grows by the key that `add` takes, and the rest of the keys is left to the induction
  induction others generalizing scanned keys with
  | nil => rwa [List.append_nil]
  | cons key others ih =>
    have rest := ih (seen.add key)
    rwa [List.append_assoc, List.singleton_append] at rest

theorem unique (seen : FirstSeen scanned keys) {others : List String}
    (alike : FirstSeen scanned others) : keys = others := by
  have perm : keys.Perm others := by
    rw [List.perm_ext_iff_of_nodup seen.nodup alike.nodup]
    intro key
    rw [seen.mem, alike.mem]
  refine perm.eq_of_pairwise (fun a b _ _ before after => ?_) seen.order alike.order
  exact absurd before (Nat.lt_asymm after)

end FirstSeen

namespace Answer

theorem firstSeen_allKeys (records : List Record) :
    FirstSeen (records.flatMap Keyed.keys) (allKeys records) :=
  FirstSeen.nil.foldl_addKey (records.flatMap Keyed.keys)

theorem allKeys_cons {first : Record} {rest : List Record}
    (known : ∀ record ∈ rest, ∀ key ∈ record.keys, key ∈ first.keys) :
    allKeys (first :: rest) = first.keys := by
  have head : FirstSeen first.keys first.keys := .of_nodup first.nodup
  have whole : FirstSeen ((first :: rest).flatMap Keyed.keys) first.keys := by
    rw [List.flatMap_cons]
    refine head.append_known fun key mem => ?_
    obtain ⟨record, within, mem⟩ := List.mem_flatMap.1 mem
    exact known record within key mem
  exact (firstSeen_allKeys (first :: rest)).unique whole

end Answer

end SolutionCheck
