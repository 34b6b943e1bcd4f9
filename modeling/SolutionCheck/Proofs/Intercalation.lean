import Mathlib.Algebra.Ring.Nat

/-!
Pieces put together with a separator between them. Every piece stands behind all the pieces and separators
in front of it, and nothing stands in the whole but what the pieces and the separator hold.
-/

namespace SolutionCheck

variable {α : Type} (sep : List α)

theorem drop_intercalate {pieces : List (List α)} {index : Nat} (within : index < pieces.length) :
    (sep.intercalate pieces).drop (((pieces.map List.length).take index).sum + sep.length * index) =
      sep.intercalate (pieces.drop index) := by
  induction pieces generalizing index with
  | nil => exact absurd within (Nat.not_lt_zero index)
  | cons piece rest ih =>
    cases index with
    | zero => rfl
    | succ index =>
      rw [List.length_cons, Nat.succ_lt_succ_iff] at within
      obtain ⟨next, rest, rfl⟩ := List.exists_cons_of_length_pos (Nat.zero_lt_of_lt within)
      have place : ((((piece :: next :: rest).map List.length).take (index + 1)).sum +
          sep.length * (index + 1)) = (piece ++ sep).length +
            ((((next :: rest).map List.length).take index).sum + sep.length * index) := by
        rw [List.map_cons, List.take_succ_cons, List.sum_cons, List.length_append, Nat.mul_succ]
        omega
      rw [place, List.intercalate_cons_cons, List.drop_length_add_append, ih within, List.drop_succ_cons]

theorem prefix_intercalate (piece : List α) (rest : List (List α)) : piece <+: sep.intercalate (piece :: rest) := by
  cases rest with
  | nil => exact ⟨[], by simp⟩
  | cons next rest =>
    rw [List.intercalate_cons_cons, List.append_assoc]
    exact List.prefix_append piece _

theorem length_intercalate {pieces : List (List α)} (filled : pieces ≠ []) :
    (sep.intercalate pieces).length =
      (pieces.map List.length).sum + sep.length * (pieces.length - 1) := by
  induction pieces with
  | nil => exact absurd rfl filled
  | cons piece rest ih =>
    cases rest with
    | nil => simp
    | cons next rest =>
      rw [List.intercalate_cons_cons, List.length_append, List.length_append, ih (List.cons_ne_nil _ _)]
      simp only [List.map_cons, List.sum_cons, List.length_cons, Nat.add_sub_cancel, Nat.mul_succ]
      omega

theorem getElem?_intercalate {pieces : List (List α)} {index : Nat} (within : index + 1 < pieces.length)
    {place : Nat} (inside : place < sep.length) :
    (sep.intercalate pieces)[((pieces.map List.length).take (index + 1)).sum + sep.length * index + place]? =
      sep[place]? := by
  have here : index < pieces.length := Nat.lt_of_succ_lt within
  have width : ((pieces.map List.length).take (index + 1)).sum =
      ((pieces.map List.length).take index).sum + pieces[index].length := by
    rw [List.take_succ_eq_append_getElem (by simpa using here), List.sum_append, List.getElem_map]
    simp
  have onward : pieces.drop index = pieces[index] :: pieces[index + 1] :: pieces.drop (index + 2) := by
    rw [List.drop_eq_getElem_cons here, List.drop_eq_getElem_cons within]
  have place_eq : ((pieces.map List.length).take (index + 1)).sum + sep.length * index + place =
      ((pieces.map List.length).take index).sum + sep.length * index + (pieces[index].length + place) := by
    omega
  rw [place_eq, ← List.getElem?_drop, drop_intercalate sep here, onward, List.intercalate_cons_cons,
    List.append_assoc, List.getElem?_append_right (Nat.le_add_right _ _), Nat.add_sub_cancel_left,
    List.getElem?_append_left inside]

theorem mem_intercalate {pieces : List (List α)} {a : α} (mem : a ∈ sep.intercalate pieces) :
    a ∈ sep ∨ ∃ piece ∈ pieces, a ∈ piece := by
  induction pieces with
  | nil => exact absurd mem List.not_mem_nil
  | cons piece rest ih =>
    cases rest with
    | nil => exact .inr ⟨piece, List.mem_singleton_self piece, by simpa using mem⟩
    | cons next rest =>
      rw [List.intercalate_cons_cons, List.mem_append, List.mem_append] at mem
      obtain (inside | between) | later := mem
      · exact .inr ⟨piece, List.mem_cons_self, inside⟩
      · exact .inl between
      · exact (ih later).imp id fun ⟨other, further, inside⟩ => ⟨other, List.mem_cons_of_mem piece further, inside⟩

end SolutionCheck
