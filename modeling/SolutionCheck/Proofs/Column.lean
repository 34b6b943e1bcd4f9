import Mathlib.Data.List.Perm.Basic
import SolutionCheck.Proofs.Cell

/-!
The cells of a column. Where they are of one kind, two of them stand level just when they are equal
or one is an integer that rounds to the other. A float can stand level with two integers of which
one is smaller; unless it does, the order of the column is a total preorder. Whether it does or not, a
column ascends when it is sorted by nearest floats with the integers of each in their own order, before
their float or behind it.
-/

namespace SolutionCheck

open Comparison

theorem Binary64.place_injective {x y : Binary64} (same : x.place = y.place) : x = y := by
  obtain ⟨xneg, xmag⟩ := x
  obtain ⟨yneg, ymag⟩ := y
  have signs : xneg = yneg := by
    cases xneg <;> cases yneg <;> simp only [place, reduceIte, Bool.false_eq_true] at same <;>
      first | rfl | omega
  have magnitudes : xmag = ymag := by
    subst signs
    refine Fin.ext ?_
    cases xneg <;> simp only [place, reduceIte, Bool.false_eq_true] at same <;> omega
  rw [signs, magnitudes]

theorem Binary64.totalOrder_eq_iff (x y : Binary64) : x.totalOrder y = .eq ↔ x = y := by
  rw [totalOrder, Std.LawfulEqCmp.compare_eq_iff_eq]
  exact ⟨place_injective, congrArg place⟩

/-- The first cell is an integer whose nearest float is the second. -/
def Cell.RoundsTo : Cell → Cell → Prop
  | int n, float x => Binary64.ofInt n.toInt = x
  | _, _ => False

instance (a b : Cell) : Decidable (a.RoundsTo b) :=
  match a, b with
  | .int n, .float x => inferInstanceAs (Decidable (Binary64.ofInt n.toInt = x))
  | .int _, .null | .int _, .bool _ | .int _, .int _ | .int _, .text _ => isFalse id
  | .null, _ | .bool _, _ | .float _, _ | .text _, _ => isFalse id

theorem orderCells_eq_iff {a b : Cell}
    (same : a.isNull = false → b.isNull = false → a.kind = b.kind) :
    orderCells a b = .eq ↔ a = b ∨ a.RoundsTo b ∨ b.RoundsTo a := by
  cases a <;> cases b <;>
    simp [orderCells, Cell.isNull, Cell.kind, Cell.compare?, Cell.RoundsTo,
      Binary64.totalOrder_eq_iff, Int64.toInt_inj] at same ⊢
  case float.int => exact eq_comm

theorem Cell.RoundsTo.kind {a x : Cell} (rounds : a.RoundsTo x) : a.kind = x.kind := by
  cases a <;> cases x <;> first | exact rounds.elim | rfl

theorem Cell.RoundsTo.level {a x : Cell} (rounds : a.RoundsTo x) : orderCells a x = .eq :=
  (orderCells_eq_iff fun _ _ => rounds.kind).2 (Or.inr (Or.inl rounds))

theorem Cell.RoundsTo.unique {a x y : Cell} (ax : a.RoundsTo x) (ay : a.RoundsTo y) : x = y := by
  cases a <;> cases x <;> try exact ax.elim
  cases y <;> try exact ay.elim
  exact congrArg Cell.float (ax.symm.trans ay)

theorem Cell.RoundsTo.not_isExact {a x : Cell} (ax : a.RoundsTo x) : ¬ x.IsExact := by
  cases a <;> cases x <;> first | exact ax.elim | exact id

theorem Cell.RoundsTo.not_roundsTo {a x y : Cell} (ax : a.RoundsTo x) : ¬ x.RoundsTo y := by
  cases a <;> cases x <;> first | exact ax.elim | exact id

def OfOneKind (cells : List Cell) : Prop :=
  ∀ a ∈ cells, ∀ b ∈ cells, a.isNull = false → b.isNull = false → a.kind = b.kind

instance (cells : List Cell) : Decidable (OfOneKind cells) :=
  inferInstanceAs (Decidable (∀ a ∈ cells, ∀ b ∈ cells, a.isNull = false → b.isNull = false →
    a.kind = b.kind))

theorem OfOneKind.of_perm {cells others : List Cell} (kinds : OfOneKind cells)
    (perm : others.Perm cells) : OfOneKind others :=
  fun a ha b hb => kinds a (perm.mem_iff.1 ha) b (perm.mem_iff.1 hb)

/-- Only equal cells stand level in the order of a column. -/
def Separates (cells : List Cell) : Prop :=
  ∀ a ∈ cells, ∀ b ∈ cells, orderCells a b = .eq → a = b

theorem Separates.totalPreorderOn {cells : List Cell} (separates : Separates cells) :
    TotalPreorderOn orderCells (· ∈ cells) :=
  orderCells_totalPreorderOn fun a b c ha hb _ ab bc => by
    rwa [separates a ha b hb ab]

theorem mixedKinds?_eq_none_iff (cells : List Cell) :
    mixedKinds? cells = none ↔ OfOneKind cells := by
  have held (cell : Cell) : cell ∈ cells.filter (fun cell => !cell.isNull) ↔
      cell ∈ cells ∧ cell.isNull = false := by
    simp [List.mem_filter]
  unfold mixedKinds? OfOneKind
  generalize cells.filter (fun cell => !cell.isNull) = filled at held
  cases filled with
  | nil => simp_all
  | cons first rest =>
    simp only [List.map_cons, Option.map_eq_none_iff, List.find?_eq_none, List.mem_map,
      forall_exists_index, and_imp, forall_apply_eq_imp_iff₂, decide_eq_true_eq, not_not]
    constructor
    · intro same a ha b hb anull bnull
      have like (cell : Cell) (h : cell ∈ first :: rest) : cell.kind = first.kind := by
        rcases List.mem_cons.1 h with rfl | h
        · rfl
        · exact same cell h
      rw [like a ((held a).2 ⟨ha, anull⟩), like b ((held b).2 ⟨hb, bnull⟩)]
    · intro same cell h
      obtain ⟨mem, holds⟩ := (held cell).1 (List.mem_cons_of_mem first h)
      obtain ⟨firstMem, firstHolds⟩ := (held first).1 List.mem_cons_self
      exact same cell mem first firstMem holds firstHolds

theorem OfOneKind.separates_of_not_roundsTo {cells : List Cell} (kinds : OfOneKind cells)
    (apart : ∀ a ∈ cells, ∀ b ∈ cells, ¬ a.RoundsTo b) : Separates cells := by
  intro a ha b hb level
  rcases (orderCells_eq_iff (kinds a ha b hb)).1 level with same | up | down
  · exact same
  · exact absurd up (apart a ha b hb)
  · exact absurd down (apart b hb a ha)

theorem OfOneKind.separates {cells : List Cell} (kinds : OfOneKind cells)
    (exact : ∀ cell ∈ cells, cell.IsExact) : Separates cells :=
  kinds.separates_of_not_roundsTo fun _ _ b hb rounds => rounds.not_isExact (exact b hb)

/-- Two different integers round to one float, and all three are among the cells. -/
def Bridged (cells : List Cell) : Prop :=
  ∃ x ∈ cells, ∃ a ∈ cells, ∃ b ∈ cells, a ≠ b ∧ a.RoundsTo x ∧ b.RoundsTo x

instance (cells : List Cell) : Decidable (Bridged cells) :=
  inferInstanceAs (Decidable (∃ x ∈ cells, ∃ a ∈ cells, ∃ b ∈ cells,
    a ≠ b ∧ a.RoundsTo x ∧ b.RoundsTo x))

theorem not_bridged_of_exact {cells : List Cell} (exact : ∀ cell ∈ cells, cell.IsExact) : ¬ Bridged cells := by
  rintro ⟨x, hx, a, -, -, -, -, ax, -⟩
  exact ax.not_isExact (exact x hx)

theorem orderCells_level_trans {cells : List Cell} (kinds : OfOneKind cells)
    (unbridged : ¬ Bridged cells) {a b c : Cell} (ha : a ∈ cells) (hb : b ∈ cells) (hc : c ∈ cells)
    (ab : orderCells a b = .eq) (bc : orderCells b c = .eq) : orderCells a c = .eq := by
  rcases (orderCells_eq_iff (kinds a ha b hb)).1 ab with rfl | up | down
  · exact bc
  · rcases (orderCells_eq_iff (kinds b hb c hc)).1 bc with rfl | further | back
    · exact ab
    · exact absurd further up.not_roundsTo
    · -- two integers under one float are the same integer
      have same : a = c := by
        by_contra different
        exact unbridged ⟨b, hb, a, ha, c, hc, different, up, back⟩
      rw [same]
      exact orderCells_self c
  · rcases (orderCells_eq_iff (kinds b hb c hc)).1 bc with rfl | other | further
    · exact ab
    · rw [down.unique other]
      exact orderCells_self c
    · exact absurd down further.not_roundsTo

theorem totalPreorderOn_of_unbridged {cells : List Cell} (kinds : OfOneKind cells)
    (unbridged : ¬ Bridged cells) : TotalPreorderOn orderCells (· ∈ cells) :=
  orderCells_totalPreorderOn fun _ _ _ => orderCells_level_trans kinds unbridged

theorem not_bridged_of_totalPreorderOn {cells : List Cell}
    (preorder : TotalPreorderOn orderCells (· ∈ cells)) : ¬ Bridged cells := by
  rintro ⟨x, hx, a, ha, b, hb, different, ax, bx⟩
  have level : orderCells a b = .eq := by
    have xa : orderCells x a = .eq := by rw [orderCells_swap, ax.level]; rfl
    have xb : orderCells x b = .eq := by rw [orderCells_swap, bx.level]; rfl
    refine preorder.level_of_le ha hb ?_ ?_
    · exact preorder.trans ha hx hb (by simp [ax.level]) (by simp [xb])
    · exact preorder.trans hb hx ha (by simp [bx.level]) (by simp [xa])
  rcases (orderCells_eq_iff fun _ _ => ax.kind.trans bx.kind.symm).1 level with same | ab | ba
  · exact different same
  · exact ab.not_roundsTo bx
  · exact ba.not_roundsTo ax

/-- In a column of one kind the order is a total preorder unless a float bridges two integers. That
turning a pair around turns its order around, and that a cell stands level with itself, holds always. -/
theorem orderCells_totalPreorder (cells : List Cell) (kinds : OfOneKind cells) :
    (∀ a ∈ cells, ∀ b ∈ cells, orderCells b a = (orderCells a b).swap) ∧
    (∀ a ∈ cells, orderCells a a = .eq) ∧
    ((∀ a ∈ cells, ∀ b ∈ cells, ∀ c ∈ cells,
      orderCells a b ≠ .gt → orderCells b c ≠ .gt → orderCells a c ≠ .gt) ↔ ¬ Bridged cells) := by
  refine ⟨fun a _ b _ => orderCells_swap a b, fun a _ => orderCells_self a, fun chains => ?_,
    fun unbridged => ?_⟩
  · exact not_bridged_of_totalPreorderOn ⟨fun a b _ _ => orderCells_swap a b,
      fun a b c ha hb hc => chains a ha b hb c hc⟩
  · intro a ha b hb c hc
    exact (totalPreorderOn_of_unbridged kinds unbridged).trans ha hb hc

theorem orderCells_totalPreorder_of_numbers :
    let cells : List Cell := [.int 9007199254740992, .null, .float (.ofInt 9007199254740992),
      .float (.zero true), .int 0, .float (.nan false), .null]
    OfOneKind cells ∧ ∀ a ∈ cells, ∀ b ∈ cells, ∀ c ∈ cells,
      orderCells a b ≠ .gt → orderCells b c ≠ .gt → orderCells a c ≠ .gt := by
  intro cells
  have kinds : OfOneKind cells := by decide
  exact ⟨kinds, (orderCells_totalPreorder cells kinds).2.2.2 (by decide +kernel)⟩

/-- The greater of two integers is not greater than the float between them, nor that float than the
smaller one. -/
theorem orderCells_not_transitive :
    let greater : Cell := .int 9007199254740993
    let between : Cell := .float (.ofInt 9007199254740992)
    let smaller : Cell := .int 9007199254740992
    OfOneKind [greater, between, smaller] ∧ orderCells greater between ≠ .gt ∧
      orderCells between smaller ≠ .gt ∧ orderCells greater smaller = .gt := by
  decide +kernel

def Cell.rounded : Cell → Cell
  | int n => float (.ofInt n.toInt)
  | cell => cell

@[simp] theorem Cell.isNull_rounded (a : Cell) : a.rounded.isNull = a.isNull := by
  cases a <;> rfl

@[simp] theorem Cell.kind_rounded (a : Cell) : a.rounded.kind = a.kind := by
  cases a <;> rfl

theorem Cell.not_roundsTo_rounded (a x : Cell) : ¬ a.rounded.RoundsTo x := by
  cases a <;> exact id

/-- Rounding forgets which integer a cell holds, representatives which zero it holds; neither
forgets what the other does. -/
theorem Cell.eq_of_rounded_of_representative {a b : Cell} (rounded : a.rounded = b.rounded)
    (representative : a.representative = b.representative) : a = b := by
  cases a <;> cases b <;> simp_all [Cell.rounded, Cell.representative]

theorem orderCells_rounded (a b : Cell) :
    orderCells a.rounded b.rounded = orderCells a b ∨ ∃ m n, a = .int m ∧ b = .int n := by
  cases a <;> cases b <;> first | exact Or.inl rfl | exact Or.inr ⟨_, _, rfl, rfl⟩

theorem orderCells_rounded_int (m n : Int64) : orderCells (Cell.int m).rounded (Cell.int n).rounded =
    compare (Binary64.ofInt m.toInt).place (Binary64.ofInt n.toInt).place := rfl

theorem orderCells_rounded_of_le {a b : Cell} (le : orderCells a b ≠ .gt) :
    orderCells a.rounded b.rounded ≠ .gt := by
  rcases orderCells_rounded a b with plain | ⟨m, n, rfl, rfl⟩
  · rwa [plain]
  · have below : ¬ compare m.toInt n.toInt = .gt := le
    rw [Int.compare_eq_gt, Int.not_lt] at below
    rw [orderCells_rounded_int, ne_eq, Int.compare_eq_gt, Int.not_lt]
    exact Binary64.place_ofInt_mono below

theorem separates_rounded {cells : List Cell} (kinds : OfOneKind cells) :
    Separates (cells.map Cell.rounded) := by
  intro a ha b hb level
  obtain ⟨a, amem, rfl⟩ := List.mem_map.1 ha
  obtain ⟨b, bmem, rfl⟩ := List.mem_map.1 hb
  have same : a.rounded.isNull = false → b.rounded.isNull = false → a.rounded.kind = b.rounded.kind := by
    simpa using kinds a amem b bmem
  rcases (orderCells_eq_iff same).1 level with equal | up | down
  · exact equal
  · exact absurd up (a.not_roundsTo_rounded _)
  · exact absurd down (b.not_roundsTo_rounded _)

theorem totalPreorderOn_rounded {cells : List Cell} (kinds : OfOneKind cells) :
    TotalPreorderOn (fun a b => orderCells a.rounded b.rounded) (· ∈ cells) :=
  ((separates_rounded kinds).totalPreorderOn.comap Cell.rounded).mono fun _ mem => List.mem_map_of_mem mem

def Cell.side (floatsFirst : Bool) : Cell → Int
  | int n => n.toInt
  | float _ => if floatsFirst then -Number.int64Bound - 1 else Number.int64Bound
  | _ => 0

/-- The order by nearest floats, in which a float stands before the integers that round to it, or behind
them, and these stand in their own order. -/
def orderApart (floatsFirst : Bool) (a b : Cell) : Ordering :=
  (orderCells a.rounded b.rounded).then (compare (a.side floatsFirst) (b.side floatsFirst))

theorem totalPreorderOn_orderApart {cells : List Cell} (kinds : OfOneKind cells) (floatsFirst : Bool) :
    TotalPreorderOn (orderApart floatsFirst) (· ∈ cells) :=
  (totalPreorderOn_rounded kinds).thenBy (Cell.side floatsFirst)

theorem orderCells_rounded_of_orderApart {floatsFirst : Bool} {a b : Cell}
    (le : orderApart floatsFirst a b ≠ .gt) : orderCells a.rounded b.rounded ≠ .gt := by
  intro greater
  rw [orderApart, greater] at le
  exact le rfl

theorem orderCells_of_orderApart {floatsFirst : Bool} {a b : Cell}
    (le : orderApart floatsFirst a b ≠ .gt) : orderCells b a ≠ .lt := by
  rcases orderCells_rounded a b with plain | ⟨m, n, rfl, rfl⟩
  · have rounded := orderCells_rounded_of_orderApart le
    rwa [orderCells_swap, ne_eq, Ordering.swap_eq_lt, ← plain]
  · -- integers that round to different floats are ordered as these are
    intro smaller
    have below : n.toInt < m.toInt := Int.compare_eq_lt.1 smaller
    have places := Binary64.place_ofInt_mono (Int.le_of_lt below)
    have sides : compare ((Cell.int m).side floatsFirst) ((Cell.int n).side floatsFirst) = .gt :=
      Int.compare_eq_gt.2 below
    rw [orderApart, orderCells_rounded_int, sides] at le
    rcases Int.lt_or_eq_of_le places with apart | level
    · rw [Int.compare_eq_gt.2 apart] at le
      exact le rfl
    · rw [Int.compare_eq_eq.2 level.symm] at le
      exact le rfl

theorem ascending_sortBy_orderApart {cells : List Cell} (kinds : OfOneKind cells) (floatsFirst : Bool) :
    Ascending orderCells (sortBy (orderApart floatsFirst) cells) :=
  (sortBy_ascending (totalPreorderOn_orderApart kinds floatsFirst) fun _ mem => mem).imp
    orderCells_of_orderApart

theorem map_rounded_eq_of_perm {xs ys : List Cell} (kinds : OfOneKind xs) (perm : ys.Perm xs)
    (xascending : xs.Pairwise fun a b => orderCells a.rounded b.rounded ≠ .gt)
    (yascending : ys.Pairwise fun a b => orderCells a.rounded b.rounded ≠ .gt) :
    xs.map Cell.rounded = ys.map Cell.rounded := by
  have separates := separates_rounded kinds
  have left : (xs.map Cell.rounded).Pairwise fun a b => orderCells a b ≠ .gt := List.pairwise_map.2 xascending
  have right : (ys.map Cell.rounded).Pairwise fun a b => orderCells a b ≠ .gt := List.pairwise_map.2 yascending
  refine List.Perm.eq_of_pairwise (fun a b ha hb ab ba => ?_) left right (perm.map _).symm
  have hb := (perm.map _).mem_iff.1 hb
  exact separates a ha b hb (separates.totalPreorderOn.level_of_le ha hb ab ba)

theorem map_rounded_sortBy_orderApart {cells : List Cell} (kinds : OfOneKind cells) :
    (sortBy (orderApart true) cells).map Cell.rounded =
      (sortBy (orderApart false) cells).map Cell.rounded := by
  have ascending (floatsFirst : Bool) : (sortBy (orderApart floatsFirst) cells).Pairwise
      fun a b => orderCells a.rounded b.rounded ≠ .gt :=
    (sortBy_ascending (totalPreorderOn_orderApart kinds floatsFirst) fun _ mem => mem).imp
      orderCells_rounded_of_orderApart
  have perm (floatsFirst : Bool) := sortBy_perm (orderApart floatsFirst) cells
  exact map_rounded_eq_of_perm (kinds.of_perm (perm true)) ((perm false).trans (perm true).symm)
    (ascending true) (ascending false)

theorem map_rounded_sortBy {xs ys : List Cell} (kinds : OfOneKind xs) (unbridged : ¬ Bridged xs)
    (perm : ys.Perm xs) : (sortBy orderCells xs).map Cell.rounded = (sortBy orderCells ys).map Cell.rounded := by
  have preorder := totalPreorderOn_of_unbridged kinds unbridged
  have ascending {zs : List Cell} (perm : zs.Perm xs) : (sortBy orderCells zs).Pairwise
      fun a b => orderCells a.rounded b.rounded ≠ .gt :=
    (sortBy_ascending preorder fun _ mem => perm.mem_iff.1 mem).imp orderCells_rounded_of_le
  have all := sortBy_perm orderCells xs
  exact map_rounded_eq_of_perm (kinds.of_perm all) (((sortBy_perm orderCells ys).trans perm).trans all.symm)
    (ascending (List.Perm.refl xs)) (ascending perm)

theorem sortBy_orderApart_ne {cells : List Cell} (kinds : OfOneKind cells) {a x : Cell} (ha : a ∈ cells)
    (hx : x ∈ cells) (rounds : a.RoundsTo x) :
    sortBy (orderApart true) cells ≠ sortBy (orderApart false) cells := by
  intro same
  have ascending (floatsFirst : Bool) :=
    sortBy_ascending (totalPreorderOn_orderApart kinds floatsFirst) fun _ mem => mem
  have different : a ≠ x := by
    rintro rfl
    exact rounds.not_roundsTo rounds
  have members (cell : Cell) (mem : cell ∈ cells) : cell ∈ sortBy (orderApart true) cells :=
    (sortBy_perm _ cells).mem_iff.2 mem
  obtain ⟨n, f, rfl, rfl⟩ : ∃ n f, a = .int n ∧ x = .float f := by
    cases a <;> cases x <;> first | exact rounds.elim | exact ⟨_, _, rfl, rfl⟩
  have level : orderCells (Cell.int n).rounded (Cell.float f).rounded = .eq := by
    have nearest : (Cell.int n).rounded = .float f := congrArg Cell.float rounds
    rw [nearest]
    exact orderCells_self _
  have range := n.le_toInt
  have range' := n.toInt_lt
  rcases sublist_or_sublist (members _ ha) (members _ hx) different with before | behind
  · have le := List.pairwise_iff_forall_sublist.1 (ascending true) before
    rw [orderApart, level, Ordering.eq_then] at le
    refine le (Int.compare_eq_gt.2 ?_)
    simp only [Cell.side, Number.int64Bound, if_true]
    omega
  · rw [same] at behind
    have le := List.pairwise_iff_forall_sublist.1 (ascending false) behind
    rw [orderApart, orderCells_swap, level, Ordering.swap_eq, Ordering.eq_then] at le
    refine le (Int.compare_eq_gt.2 ?_)
    simp only [Cell.side, Number.int64Bound, Bool.false_eq_true, if_false]
    omega

end SolutionCheck
