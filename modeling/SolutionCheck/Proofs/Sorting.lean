import Mathlib.Data.List.Forall2
import SolutionCheck.Sorting

/-!
Sorting by insertion. On elements where the order is a total preorder the result is ascending.
Stability needs no order at all: elements that never count as smaller than one another come out
in the order in which they went in. Two lists that are sorted alike and agree group by group
agree element by element. Agreement is stated as a relation between the elements at each place.
-/

namespace SolutionCheck

variable {α β : Type} {order : α → α → Ordering} {P : α → Prop}

theorem TotalPreorderOn.comap (preorder : TotalPreorderOn order P) (key : β → α) :
    TotalPreorderOn (fun a b => order (key a) (key b)) (fun a => P (key a)) where
  swap _ _ a b := preorder.swap a b
  trans _ _ _ a b c ab bc := preorder.trans a b c ab bc

theorem TotalPreorderOn.mono {Q : α → Prop} (preorder : TotalPreorderOn order P)
    (within : ∀ a, Q a → P a) : TotalPreorderOn order Q where
  swap a b qa qb := preorder.swap (within a qa) (within b qb)
  trans a b c qa qb qc := preorder.trans (within a qa) (within b qb) (within c qc)

theorem insertDescending_descending (preorder : TotalPreorderOn order P) {x : α} {ys : List α} (px : P x)
    (pys : ∀ y ∈ ys, P y) (descending : ys.Pairwise fun a b => order b a ≠ .gt) :
    (insertDescending order x ys).Pairwise fun a b => order b a ≠ .gt := by
  induction ys with
  | nil => exact List.pairwise_singleton _ x
  | cons y ys ih =>
    obtain ⟨below, descending⟩ := List.pairwise_cons.1 descending
    obtain ⟨py, ptail⟩ := List.forall_mem_cons.1 pys
    simp only [insertDescending]
    split
    · next smaller =>
      refine List.pairwise_cons.2 ⟨fun z hz => ?_, ih ptail descending⟩
      rcases List.mem_cons.1 ((insertDescending_perm order x ys).mem_iff.1 hz) with rfl | hz
      · simp [smaller]
      · exact below z hz
    · next notSmaller =>
      have yx : order y x ≠ .gt := by
        rwa [preorder.swap px py, ne_eq, Ordering.swap_eq_gt]
      refine List.pairwise_cons.2 ⟨fun z hz => ?_, List.pairwise_cons.2 ⟨below, descending⟩⟩
      rcases List.mem_cons.1 hz with rfl | hz
      · exact yx
      · exact preorder.trans (ptail z hz) py px (below z hz) yx

theorem foldl_insertDescending_descending (preorder : TotalPreorderOn order P) {xs sorted : List α}
    (pxs : ∀ x ∈ xs, P x) (psorted : ∀ x ∈ sorted, P x)
    (descending : sorted.Pairwise fun a b => order b a ≠ .gt) :
    (xs.foldl (fun sorted x => insertDescending order x sorted) sorted).Pairwise
      fun a b => order b a ≠ .gt := by
  induction xs generalizing sorted with
  | nil => exact descending
  | cons x xs ih =>
    obtain ⟨px, pxs⟩ := List.forall_mem_cons.1 pxs
    refine ih pxs (fun z hz => ?_) (insertDescending_descending preorder px psorted descending)
    rcases List.mem_cons.1 ((insertDescending_perm order x sorted).mem_iff.1 hz) with rfl | hz
    · exact px
    · exact psorted z hz

theorem sortBy_ascending (preorder : TotalPreorderOn order P) {xs : List α} (pxs : ∀ x ∈ xs, P x) :
    (sortBy order xs).Pairwise fun a b => order a b ≠ .gt := by
  rw [sortBy, List.pairwise_reverse]
  exact foldl_insertDescending_descending preorder pxs (fun _ h => absurd h List.not_mem_nil)
    List.Pairwise.nil

theorem filter_insertDescending (p : α → Bool)
    (tied : ∀ a b, p a = true → p b = true → order a b ≠ .lt) (x : α) (ys : List α) :
    (insertDescending order x ys).filter p = (x :: ys).filter p := by
  induction ys with
  | nil => rfl
  | cons y ys ih =>
    simp only [insertDescending]
    split
    · next smaller =>
      rw [List.filter_cons, ih]
      by_cases px : p x = true
      · have py : ¬ p y = true := fun py => tied x y px py smaller
        simp [px, py]
      · simp [px, List.filter_cons]
    · rfl

theorem filter_foldl_insertDescending (p : α → Bool)
    (tied : ∀ a b, p a = true → p b = true → order a b ≠ .lt) (xs sorted : List α) :
    (xs.foldl (fun sorted x => insertDescending order x sorted) sorted).filter p =
      (xs.filter p).reverse ++ sorted.filter p := by
  induction xs generalizing sorted with
  | nil => rfl
  | cons x xs ih =>
    rw [List.foldl_cons, ih, filter_insertDescending p tied]
    by_cases px : p x = true <;> simp [px]

/-- Sorting keeps the order of arrival in a group whose elements never count as smaller than one
another. Nothing is asked of the order outside the group. -/
theorem filter_sortBy (p : α → Bool) (tied : ∀ a b, p a = true → p b = true → order a b ≠ .lt)
    (xs : List α) : (sortBy order xs).filter p = xs.filter p := by
  rw [sortBy, List.filter_reverse, filter_foldl_insertDescending p tied]
  simp

theorem sortBy_of_tied (tied : ∀ a b, order a b ≠ .lt) (xs : List α) : sortBy order xs = xs :=
  sortBy_of_ascending (List.pairwise_of_forall fun a b => tied b a)

theorem TotalPreorderOn.level_self (preorder : TotalPreorderOn order P) {a : α} (pa : P a) :
    order a a = .eq := by
  have turned := preorder.swap pa pa
  generalize order a a = outcome at turned
  cases outcome with
  | lt => cases turned
  | eq => rfl
  | gt => cases turned

theorem TotalPreorderOn.level_of_le (preorder : TotalPreorderOn order P) {a b : α} (pa : P a)
    (pb : P b) (ab : order a b ≠ .gt) (ba : order b a ≠ .gt) : order a b = .eq := by
  rw [preorder.swap pa pb] at ba
  cases h : order a b <;> simp_all

theorem TotalPreorderOn.not_lt_of_level (preorder : TotalPreorderOn order P) {a b c : α} (pa : P a)
    (pb : P b) (pc : P c) (ab : order a b = .eq) (ac : order a c = .eq) : order b c ≠ .lt := by
  have ca : order c a ≠ .gt := by simp [preorder.swap pa pc, ac]
  have cb : order c b ≠ .gt := preorder.trans pc pa pb ca (by simp [ab])
  rw [preorder.swap pb pc] at cb
  cases h : order b c <;> simp_all

theorem filter_level_sortBy [DecidableEq α] (preorder : TotalPreorderOn order P) {xs : List α}
    (pxs : ∀ x ∈ xs, P x) {a : α} (pa : P a) :
    (sortBy order xs).filter (order a · = .eq) = xs.filter (order a · = .eq) := by
  -- stability is asked of elements anywhere, so the group is cut down to the list
  let group (x : α) : Bool := decide (x ∈ xs) && decide (order a x = .eq)
  have within {ys : List α} (perm : ys.Perm xs) :
      ys.filter (order a · = .eq) = ys.filter group :=
    List.filter_congr fun x hx => by simp [group, perm.mem_iff.1 hx]
  rw [within (sortBy_perm order xs), within (List.Perm.refl xs)]
  refine filter_sortBy group (fun b c hb hc => ?_) xs
  simp only [group, Bool.and_eq_true, decide_eq_true_eq] at hb hc
  exact preorder.not_lt_of_level pa (pxs b hb.1) (pxs c hc.1) hb.2 hc.2

/-- An ascending list is determined by its elements and their arrival in every level group. -/
theorem eq_of_ascending_of_groups (preorder : TotalPreorderOn order P) {xs ys : List α}
    (pxs : ∀ x ∈ xs, P x) (perm : ys.Perm xs) (xascending : xs.Pairwise fun a b => order a b ≠ .gt)
    (yascending : ys.Pairwise fun a b => order a b ≠ .gt)
    (groups : ∀ a ∈ xs, xs.filter (order a · = .eq) = ys.filter (order a · = .eq)) : xs = ys := by
  induction xs generalizing ys with
  | nil => exact (List.perm_nil.1 perm).symm
  | cons x xs ih =>
    cases ys with
    | nil => exact List.nil_perm.1 perm
    | cons y ys =>
      obtain ⟨xbelow, xtail⟩ := List.pairwise_cons.1 xascending
      obtain ⟨ybelow, ytail⟩ := List.pairwise_cons.1 yascending
      have px : P x := pxs x List.mem_cons_self
      have py : P y := pxs y (perm.mem_iff.1 List.mem_cons_self)
      have self : order x x = .eq := preorder.level_self px
      have level : order x y = .eq := by
        rcases List.mem_cons.1 (perm.mem_iff.1 List.mem_cons_self) with rfl | yxs
        · exact self
        rcases List.mem_cons.1 (perm.symm.mem_iff.1 List.mem_cons_self) with rfl | xys
        · exact self
        exact preorder.level_of_le px py (xbelow y yxs) (ybelow x xys)
      -- both heads open the group of the first one
      have same : x = y := by
        have group := groups x List.mem_cons_self
        simp only [List.filter_cons, self, level, decide_true, if_true] at group
        exact (List.cons.inj group).1
      subst same
      have rest : xs = ys := by
        refine ih (fun z hz => pxs z (List.mem_cons_of_mem x hz)) perm.cons_inv xtail ytail
          fun a ha => ?_
        have group := groups a (List.mem_cons_of_mem x ha)
        simp only [List.filter_cons] at group
        split at group
        · exact (List.cons.inj group).2
        · exact group
      rw [rest]

theorem sortBy_eq_iff_groups [DecidableEq α] (preorder : TotalPreorderOn order P) {xs ys : List α}
    (pxs : ∀ x ∈ xs, P x) (perm : ys.Perm xs) :
    sortBy order xs = sortBy order ys ↔
      ∀ a ∈ xs, xs.filter (order a · = .eq) = ys.filter (order a · = .eq) := by
  have pys : ∀ y ∈ ys, P y := fun y hy => pxs y (perm.mem_iff.1 hy)
  constructor
  · intro sorted a ha
    rw [← filter_level_sortBy preorder pxs (pxs a ha), sorted,
      filter_level_sortBy preorder pys (pxs a ha)]
  · intro groups
    have pzs : ∀ z ∈ sortBy order xs, P z := fun z hz => pxs z ((sortBy_perm order xs).mem_iff.1 hz)
    refine eq_of_ascending_of_groups preorder pzs
      ((sortBy_perm order ys).trans (perm.trans (sortBy_perm order xs).symm))
      (sortBy_ascending preorder pxs) (sortBy_ascending preorder pys) fun a ha => ?_
    have hxs : a ∈ xs := (sortBy_perm order xs).mem_iff.1 ha
    rw [filter_level_sortBy preorder pxs (pxs a hxs), filter_level_sortBy preorder pys (pxs a hxs)]
    exact groups a hxs

theorem insertDescending_map (f : β → α) (x : β) (ys : List β) :
    insertDescending order (f x) (ys.map f) =
      (insertDescending (fun a b => order (f a) (f b)) x ys).map f := by
  induction ys with
  | nil => rfl
  | cons y ys ih =>
    simp only [List.map_cons, insertDescending]
    split
    · rw [ih, List.map_cons]
    · rfl

theorem sortBy_map (f : β → α) (xs : List β) :
    sortBy order (xs.map f) = (sortBy (fun a b => order (f a) (f b)) xs).map f := by
  have insertions (sorted : List β) :
      (xs.map f).foldl (fun sorted x => insertDescending order x sorted) (sorted.map f) =
        (xs.foldl (fun sorted x => insertDescending (fun a b => order (f a) (f b)) x sorted)
          sorted).map f := by
    induction xs generalizing sorted with
    | nil => rfl
    | cons x xs ih => rw [List.map_cons, List.foldl_cons, insertDescending_map, ih, List.foldl_cons]
  rw [sortBy, sortBy, List.map_reverse, ← insertions [], List.map_nil]

theorem sortBy_eq_of_perm (preorder : TotalPreorderOn order P) {xs ys : List α}
    (pxs : ∀ x ∈ xs, P x) (perm : xs.Perm ys)
    (antisymm : ∀ a b, P a → P b → order a b = .eq → a = b) :
    sortBy order xs = sortBy order ys := by
  have pys : ∀ y ∈ ys, P y := fun y hy => pxs y (perm.mem_iff.2 hy)
  refine List.Perm.eq_of_pairwise (fun a b ha hb ab ba => ?_) (sortBy_ascending preorder pxs)
    (sortBy_ascending preorder pys)
    ((sortBy_perm order xs).trans (perm.trans (sortBy_perm order ys).symm))
  have pa : P a := pxs a ((sortBy_perm order xs).mem_iff.1 ha)
  have pb : P b := pys b ((sortBy_perm order ys).mem_iff.1 hb)
  exact antisymm a b pa pb (preorder.level_of_le pa pb ab ba)

theorem forall₂_iff_map_eq {κ : Type} {f : α → κ} {g : β → κ} {xs : List α} {ys : List β} :
    List.Forall₂ (fun a b => f a = g b) xs ys ↔ xs.map f = ys.map g := by
  rw [← List.forall₂_eq_eq_eq, List.forall₂_map_left_iff, List.forall₂_map_right_iff]

theorem forall₂_map_self {R : α → β → Prop} {f : α → β} {xs : List α}
    (related : ∀ a ∈ xs, R a (f a)) : List.Forall₂ R xs (xs.map f) := by
  rwa [List.forall₂_map_right_iff, List.forall₂_same]

theorem forall₂_filter {R : α → β → Prop} {p : α → Bool} {q : β → Bool} {xs : List α} {ys : List β}
    (related : List.Forall₂ R xs ys) (same : ∀ a ∈ xs, ∀ b, R a b → p a = q b) :
    List.Forall₂ R (xs.filter p) (ys.filter q) := by
  induction related with
  | nil => exact List.Forall₂.nil
  | @cons x y xs ys xy _ ih =>
    have head : p x = q y := same x List.mem_cons_self y xy
    have tail := ih fun a ha => same a (List.mem_cons_of_mem x ha)
    rw [List.filter_cons, List.filter_cons, head]
    split
    · exact List.Forall₂.cons xy tail
    · exact tail

theorem forall₂_of_groups {κ : Type} [DecidableEq κ] {R : α → β → Prop} {f : α → κ} {g : β → κ}
    {xs : List α} {ys : List β} (keys : xs.map f = ys.map g)
    (groups : ∀ k, List.Forall₂ R (xs.filter (f · = k)) (ys.filter (g · = k))) :
    List.Forall₂ R xs ys := by
  induction xs generalizing ys with
  | nil =>
    cases ys with
    | nil => exact List.Forall₂.nil
    | cons y ys => cases keys
  | cons x xs ih =>
    cases ys with
    | nil => cases keys
    | cons y ys =>
      obtain ⟨head, tail⟩ := List.cons.inj keys
      have first : R x y := by
        have group := groups (f x)
        simp only [List.filter_cons, head, decide_true, if_true] at group
        exact (List.forall₂_cons.1 group).1
      refine List.Forall₂.cons first (ih tail fun k => ?_)
      have group := groups k
      simp only [List.filter_cons, head] at group
      split at group
      · exact (List.forall₂_cons.1 group).2
      · exact group

theorem map_perm_of_groups {κ : Type} [DecidableEq κ] {R : α → β → Prop} {f : α → κ} {g : β → κ}
    {xs : List α} {ys : List β}
    (groups : ∀ k, List.Forall₂ R (xs.filter (f · = k)) (ys.filter (g · = k))) :
    (xs.map f).Perm (ys.map g) := by
  refine List.perm_iff_count.2 fun k => ?_
  rw [List.count_eq_countP, List.count_eq_countP, List.countP_map, List.countP_map,
    List.countP_eq_length_filter, List.countP_eq_length_filter]
  exact (groups k).length_eq

theorem insertDescending_congr {other : α → α → Ordering} {x : α} {ys : List α}
    (agree : ∀ y ∈ ys, order x y = .lt ↔ other x y = .lt) :
    insertDescending order x ys = insertDescending other x ys := by
  induction ys with
  | nil => rfl
  | cons y ys ih =>
    obtain ⟨head, tail⟩ := List.forall_mem_cons.1 agree
    simp only [insertDescending, head, ih tail]

theorem sortBy_congr {other : α → α → Ordering} {xs : List α}
    (agree : xs.Pairwise fun a b => order b a = .lt ↔ other b a = .lt) :
    sortBy order xs = sortBy other xs := by
  have insertions (sorted : List α)
      (known : ∀ x ∈ xs, ∀ y ∈ sorted, order x y = .lt ↔ other x y = .lt) :
      xs.foldl (fun sorted x => insertDescending order x sorted) sorted =
        xs.foldl (fun sorted x => insertDescending other x sorted) sorted := by
    induction xs generalizing sorted with
    | nil => rfl
    | cons x xs ih =>
      obtain ⟨later, agree⟩ := List.pairwise_cons.1 agree
      obtain ⟨here, known⟩ := List.forall_mem_cons.1 known
      rw [List.foldl_cons, List.foldl_cons, insertDescending_congr here]
      refine ih agree _ fun z hz y hy => ?_
      rcases List.mem_cons.1 ((insertDescending_perm other x sorted).mem_iff.1 hy) with rfl | hy
      · exact later z hz
      · exact known z hz y hy
  rw [sortBy, sortBy, insertions [] fun _ _ _ mem => absurd mem List.not_mem_nil]

theorem sublist_or_sublist {a b : α} {xs : List α} (amem : a ∈ xs) (bmem : b ∈ xs) (apart : a ≠ b) :
    [a, b].Sublist xs ∨ [b, a].Sublist xs := by
  obtain ⟨before, after, rfl⟩ := List.append_of_mem amem
  rcases List.mem_append.1 bmem with bmem | bmem
  · exact .inr ((List.singleton_sublist.2 bmem).append (List.singleton_sublist.2 List.mem_cons_self))
  · rcases List.mem_cons.1 bmem with rfl | bmem
    · exact absurd rfl apart
    · have behind : [a, b].Sublist (a :: after) := (List.singleton_sublist.2 bmem).cons_cons a
      exact .inl (behind.trans (List.sublist_append_right before _))

/-- Where two orders sort a list alike, an element that counts as smaller than an earlier one in the first
order does so in the second. -/
theorem lt_of_sortBy_eq [DecidableEq α] {other : α → α → Ordering} (preorder : TotalPreorderOn order P)
    (preorder' : TotalPreorderOn other P) {xs : List α} (pxs : ∀ x ∈ xs, P x)
    (sorted : sortBy order xs = sortBy other xs) {a b : α} (arrival : [a, b].Sublist xs)
    (smaller : order b a = .lt) : other b a = .lt := by
  have amem : a ∈ xs := arrival.subset List.mem_cons_self
  have bmem : b ∈ xs := arrival.subset (List.mem_cons_of_mem a List.mem_cons_self)
  have pa : P a := pxs a amem
  have pb : P b := pxs b bmem
  have notKept : ¬ [a, b].Sublist (sortBy other xs) := fun kept => by
    have greater : order a b = .gt := by rw [preorder.swap pb pa, smaller]; rfl
    rw [← sorted] at kept
    exact List.pairwise_iff_forall_sublist.1 (sortBy_ascending preorder pxs) kept greater
  cases outcome : other b a with
  | lt => rfl
  | eq =>
    -- standing level, the two would keep the order of their arrival
    have level : other a b = .eq := by rw [preorder'.swap pb pa, outcome]; rfl
    have arrived := arrival.filter fun x => decide (other a x = .eq)
    rw [← filter_level_sortBy preorder' pxs pa, List.filter_eq_self.2] at arrived
    · exact absurd (arrived.trans List.filter_sublist) notKept
    · simp [preorder'.level_self pa, level]
  | gt =>
    have apart : a ≠ b := by
      rintro rfl
      rw [preorder'.level_self pa] at outcome
      cases outcome
    have members (x : α) (mem : x ∈ xs) : x ∈ sortBy other xs := (sortBy_perm other xs).mem_iff.2 mem
    rcases sublist_or_sublist (members a amem) (members b bmem) apart with kept | turned
    · exact absurd kept notKept
    · exact absurd outcome (List.pairwise_iff_forall_sublist.1 (sortBy_ascending preorder' pxs) turned)

theorem TotalPreorderOn.thenBy (preorder : TotalPreorderOn order P) (key : α → Int) :
    TotalPreorderOn (fun a b => (order a b).then (compare (key a) (key b))) P where
  swap a b pa pb := by rw [preorder.swap pa pb, Ordering.swap_then, Int.compare_swap]
  trans a b c pa pb pc ab bc := by
    have ab' : order a b ≠ .gt := fun gt => ab (by rw [gt]; rfl)
    have bc' : order b c ≠ .gt := fun gt => bc (by rw [gt]; rfl)
    have ac := preorder.trans pa pb pc ab' bc'
    cases outcome : order a c with
    | lt => simp
    | gt => exact absurd outcome ac
    | eq =>
      -- going round, all three stand level, and the numbers decide
      have ca : order c a ≠ .gt := by simp [preorder.swap pa pc, outcome]
      have levelLeft : order a b = .eq := preorder.level_of_le pa pb ab' (preorder.trans pb pc pa bc' ca)
      have levelRight : order b c = .eq := preorder.level_of_le pb pc bc' (preorder.trans pc pa pb ca ab')
      rw [levelLeft, Ordering.eq_then, ne_eq, Int.compare_eq_gt, Int.not_lt] at ab
      rw [levelRight, Ordering.eq_then, ne_eq, Int.compare_eq_gt, Int.not_lt] at bc
      rw [Ordering.eq_then, ne_eq, Int.compare_eq_gt, Int.not_lt]
      exact Int.le_trans ab bc

end SolutionCheck
