import SolutionCheck.Proofs.Sequence

/-!
Answers that are lists of integers. An integer that fits in 64 bits is held as it is, so such lists
are accepted just when they hold the same integers equally often. Any other integer is held as the
float nearest to it, and two of them are told apart only where these floats differ.
-/

namespace SolutionCheck

open Comparison

/-- No cell tells the integers apart: they are equal, or neither fits in 64 bits and one float is
nearest to both. -/
def Number.Alike (n m : Int) : Prop :=
  n = m ∨ fitsInt64 n = false ∧ fitsInt64 m = false ∧ Binary64.ofInt n = Binary64.ofInt m

instance : DecidableRel Number.Alike := fun n m =>
  inferInstanceAs (Decidable (n = m ∨ Number.fitsInt64 n = false ∧ Number.fitsInt64 m = false ∧
    Binary64.ofInt n = Binary64.ofInt m))

theorem Number.Alike.eq {n m : Int} (alike : Alike n m) (fits : fitsInt64 n = true) : n = m := by
  rcases alike with same | ⟨beyond, -, -⟩
  · exact same
  · rw [fits] at beyond
    cases beyond

theorem Number.toInt_ofInt {n : Int} (fits : fitsInt64 n = true) : (Int64.ofInt n).toInt = n := by
  have range : -int64Bound ≤ n ∧ n < int64Bound := of_decide_eq_true fits
  simp only [int64Bound] at range
  exact Int64.toInt_ofInt_of_le range.1 range.2

namespace Binary64

theorem representative_ofInt {n : Int} (nonzero : n ≠ 0) : (ofInt n).representative = ofInt n := by
  simp [representative, isNaN_ofInt, isZero_ofInt nonzero]

end Binary64

namespace Cell

theorem ofInt_of_fits {n : Int} (fits : Number.fitsInt64 n = true) : ofInt n = int (.ofInt n) :=
  if_pos fits

theorem ofInt_of_beyond {n : Int} (beyond : Number.fitsInt64 n = false) : ofInt n = float (.ofInt n) :=
  if_neg (by simp [beyond])

theorem ofInt_eq_iff (n m : Int) : ofInt n = ofInt m ↔ Number.Alike n m := by
  constructor
  · intro same
    cases nfits : Number.fitsInt64 n <;> cases mfits : Number.fitsInt64 m
    · rw [ofInt_of_beyond nfits, ofInt_of_beyond mfits] at same
      exact Or.inr ⟨nfits, mfits, float.inj same⟩
    · rw [ofInt_of_beyond nfits, ofInt_of_fits mfits] at same
      cases same
    · rw [ofInt_of_fits nfits, ofInt_of_beyond mfits] at same
      cases same
    · rw [ofInt_of_fits nfits, ofInt_of_fits mfits] at same
      refine Or.inl ?_
      rw [← Number.toInt_ofInt nfits, int.inj same, Number.toInt_ofInt mfits]
  · rintro (rfl | ⟨nbeyond, mbeyond, same⟩)
    · rfl
    · rw [ofInt_of_beyond nbeyond, ofInt_of_beyond mbeyond, same]

theorem kind_ofInt (n : Int) : (ofInt n).kind = .number := by
  unfold ofInt
  split <;> rfl

theorem representative_ofInt (n : Int) : (ofInt n).representative = ofInt n := by
  cases fits : Number.fitsInt64 n with
  | true => rw [ofInt_of_fits fits]; rfl
  | false =>
    have nonzero : n ≠ 0 := by
      rintro rfl
      cases fits
    rw [ofInt_of_beyond fits, representative, Binary64.representative_ofInt nonzero]

theorem roundsTo_ofInt_iff (n m : Int) : (ofInt n).RoundsTo (ofInt m) ↔
    Number.fitsInt64 n = true ∧ Number.fitsInt64 m = false ∧ Binary64.ofInt n = Binary64.ofInt m := by
  cases nfits : Number.fitsInt64 n with
  | false => simp [ofInt_of_beyond nfits, RoundsTo]
  | true =>
    cases mfits : Number.fitsInt64 m with
    | true => simp [ofInt_of_fits nfits, ofInt_of_fits mfits, RoundsTo]
    | false =>
      simp only [ofInt_of_fits nfits, ofInt_of_beyond mfits, RoundsTo, Number.toInt_ofInt nfits,
        true_and]

end Cell

theorem ofJson_integers (ns : List Int) :
    Answer.ofJson (.array (ns.map .int)) = .sequence (ns.map Cell.ofInt) := by
  cases ns with
  | nil => rfl
  | cons n ns => simp [Answer.ofJson, Answer.isRecord, Cell.ofJson, Function.comp_def]

theorem ofOneKind_integers (ns : List Int) : OfOneKind (ns.map Cell.ofInt) := by
  intro a ha b hb _ _
  obtain ⟨n, -, rfl⟩ := List.mem_map.1 ha
  obtain ⟨m, -, rfl⟩ := List.mem_map.1 hb
  rw [Cell.kind_ofInt, Cell.kind_ofInt]

theorem map_representative_of_integers {ns : List Int} {cells : List Cell} (perm : cells.Perm (ns.map Cell.ofInt)) :
    cells.map Cell.representative = cells := by
  conv_rhs => rw [← List.map_id cells]
  refine List.map_congr_left fun cell mem => ?_
  obtain ⟨n, -, rfl⟩ := List.mem_map.1 (perm.mem_iff.1 mem)
  exact Cell.representative_ofInt n

theorem perm_map_ofInt_iff (ns ms : List Int) :
    (ms.map Cell.ofInt).Perm (ns.map Cell.ofInt) ↔
      ∃ others, others.Perm ns ∧ List.Forall₂ Number.Alike others ms := by
  have alike (others : List Int) : List.Forall₂ Number.Alike others ms ↔
      ms.map Cell.ofInt = others.map Cell.ofInt := by
    rw [eq_comm, ← forall₂_iff_map_eq]
    simp only [Cell.ofInt_eq_iff]
  have rearranged := congrFun₂ (List.eq_map_comp_perm Cell.ofInt) (ms.map Cell.ofInt) ns
  rw [← rearranged]
  simp only [Relation.Comp, alike]
  exact exists_congr fun _ => And.comm

section

variable [Sorting]

theorem perm_of_accepted {ns ms : List Int}
    (accepted : checkEquals (.sequence (ns.map Cell.ofInt)) (.sequence (ms.map Cell.ofInt)) = .ok ()) :
    (ms.map Cell.ofInt).Perm (ns.map Cell.ofInt) := by
  obtain ⟨-, -, xs, sorted, ys, sorted', same⟩ := (checkEquals_sequence_iff _ _).1 accepted
  have perm := arrangedCells_perm sorted
  have perm' := arrangedCells_perm sorted'
  rw [map_representative_of_integers perm, map_representative_of_integers perm'] at same
  exact perm'.symm.trans (same ▸ perm)

theorem accepted_of_perm {ns ms : List Int}
    (apart : ∀ n ∈ ns, ∀ m ∈ ns, Number.fitsInt64 n = true → Number.fitsInt64 m = false →
      Binary64.ofInt n ≠ Binary64.ofInt m)
    (perm : (ms.map Cell.ofInt).Perm (ns.map Cell.ofInt)) :
    checkEquals (.sequence (ns.map Cell.ofInt)) (.sequence (ms.map Cell.ofInt)) = .ok () := by
  refine checkEquals_of_perm (ofOneKind_integers ns) (fun a ha b hb => ?_) perm
  obtain ⟨n, hn, rfl⟩ := List.mem_map.1 ha
  obtain ⟨m, hm, rfl⟩ := List.mem_map.1 hb
  rw [Cell.roundsTo_ofInt_iff]
  rintro ⟨fits, beyond, same⟩
  exact apart n hn m hm fits beyond same

/-- Accepted lists of integers hold the same integers equally often, up to those that round to one
float because they do not fit in 64 bits. Such lists are accepted unless an integer that fits and
one that does not round to one float; where all integers fit, rearrangement decides. -/
theorem checkEquals_integers (ns ms : List Int) :
    let expected := Answer.ofJson (.array (ns.map .int))
    let actual := Answer.ofJson (.array (ms.map .int))
    (checkEquals expected actual = .ok () →
      ∃ others, others.Perm ns ∧ List.Forall₂ Number.Alike others ms) ∧
    ((∀ n ∈ ns, ∀ m ∈ ns, Number.fitsInt64 n = true → Number.fitsInt64 m = false →
        Binary64.ofInt n ≠ Binary64.ofInt m) →
      (∃ others, others.Perm ns ∧ List.Forall₂ Number.Alike others ms) →
      checkEquals expected actual = .ok ()) ∧
    ((∀ n ∈ ns, Number.fitsInt64 n = true) → (checkEquals expected actual = .ok () ↔ ms.Perm ns)) := by
  simp only [ofJson_integers]
  refine ⟨fun accepted => (perm_map_ofInt_iff ns ms).1 (perm_of_accepted accepted),
    fun apart pairs => accepted_of_perm apart ((perm_map_ofInt_iff ns ms).2 pairs),
    fun fits => ⟨fun accepted => ?_, fun perm => ?_⟩⟩
  · obtain ⟨others, perm, alike⟩ := (perm_map_ofInt_iff ns ms).1 (perm_of_accepted accepted)
    have kept : ∀ n ∈ others, Number.fitsInt64 n = true := fun n hn => fits n (perm.mem_iff.1 hn)
    have equal : List.Forall₂ (· = ·) others ms :=
      ((List.forall₂_and_left _ _).2 ⟨kept, alike⟩).imp fun _ _ pair => pair.2.eq pair.1
    rw [List.forall₂_eq_eq_eq] at equal
    exact equal ▸ perm
  · refine accepted_of_perm (fun n _ m hm _ beyond => ?_) (perm.map Cell.ofInt)
    rw [fits m hm] at beyond
    cases beyond

end

theorem checkEquals_integers_of_large :
    letI := Sorting.guarded
    let ns : List Int := [9223372036854779904, 7, -9223372036854775808, 7]
    let ms : List Int := [7, 9223372036854779905, 7, -9223372036854775808]
    let kept : List Int := [9223372036854775807, 9007199254740993, 9007199254740992]
    checkEquals (.ofJson (.array (ns.map .int))) (.ofJson (.array (ms.map .int))) = .ok () ∧
      (∃ others, others.Perm ns ∧ List.Forall₂ Number.Alike others ms) ∧
      checkEquals (.ofJson (.array (kept.map .int))) (.ofJson (.array (kept.reverse.map .int))) =
        .ok () := by
  let _ := Sorting.guarded
  intro ns ms kept
  have pairs : ∃ others, others.Perm ns ∧ List.Forall₂ Number.Alike others ms :=
    ⟨[7, 9223372036854779904, 7, -9223372036854775808], by decide, by decide +kernel⟩
  have accepted := (checkEquals_integers ns ms).2.1 (by decide +kernel) pairs
  exact ⟨accepted, (checkEquals_integers ns ms).1 accepted,
    ((checkEquals_integers kept kept.reverse).2.2 (by decide)).2 kept.reverse_perm⟩

/-- Two different integers that do not fit in 64 bits are accepted for one another. -/
theorem checkEquals_accepts_different_integers :
    letI := Sorting.guarded
    let n : Int := 9223372036854775808
    let m : Int := 9223372036854775809
    ¬ (checkEquals (.ofJson (.array [.int n])) (.ofJson (.array [.int m])) = .ok () ↔ [m].Perm [n]) := by
  let _ := Sorting.guarded
  intro n m
  have accepted : checkEquals (.ofJson (.array [.int n])) (.ofJson (.array [.int m])) = .ok () :=
    (checkEquals_eq_ok_iff _ _).2 (by decide +kernel)
  have different : ¬ [m].Perm [n] := by decide
  exact fun same => different (same.1 accepted)

end SolutionCheck
