/-!
Sorting. By insertion, elements are taken in order of arrival and each goes behind those that are not
greater, so that elements which compare as equal keep their order of arrival. Which sort a comparison of
tables uses is left open: it agrees with insertion where the comparison is a total preorder on the list,
and elsewhere it gives some rearrangement or panics. A list that ascends already is never touched.
-/

namespace SolutionCheck

variable {α : Type}

/-- On the elements with a property, turning a pair around turns its order around, and elements
that are not greater than one another form chains. -/
structure TotalPreorderOn (order : α → α → Ordering) (P : α → Prop) : Prop where
  swap : ∀ ⦃a b⦄, P a → P b → order b a = (order a b).swap
  trans : ∀ ⦃a b c⦄, P a → P b → P c → order a b ≠ .gt → order b c ≠ .gt → order a c ≠ .gt

instance (order : α → α → Ordering) (xs : List α) : Decidable (TotalPreorderOn order (· ∈ xs)) :=
  decidable_of_iff
    ((∀ a ∈ xs, ∀ b ∈ xs, order b a = (order a b).swap) ∧
      ∀ a ∈ xs, ∀ b ∈ xs, order a b ≠ .gt → ∀ c ∈ xs, order b c ≠ .gt → order a c ≠ .gt)
    ⟨fun ⟨turned, chained⟩ => ⟨fun a b ha hb => turned a ha b hb,
      fun a b c ha hb hc ab => chained a ha b hb ab c hc⟩,
    fun preorder => ⟨fun _ ha _ hb => preorder.swap ha hb,
      fun _ ha _ hb ab _ hc => preorder.trans ha hb hc ab⟩⟩

def Ascending (order : α → α → Ordering) (xs : List α) : Prop := xs.Pairwise fun a b => order b a ≠ .lt

instance (order : α → α → Ordering) (xs : List α) : Decidable (Ascending order xs) :=
  inferInstanceAs (Decidable (xs.Pairwise fun a b => order b a ≠ .lt))

/-- Insert into a list that stands in descending order, in front of the first element not greater. -/
def insertDescending (order : α → α → Ordering) (x : α) : List α → List α
  | [] => [x]
  | y :: ys => if order x y = .lt then y :: insertDescending order x ys else x :: y :: ys

def sortBy (order : α → α → Ordering) (xs : List α) : List α :=
  (xs.foldl (fun sorted x => insertDescending order x sorted) []).reverse

def sortTexts (texts : List String) : List String := sortBy compare texts

theorem insertDescending_perm (order : α → α → Ordering) (x : α) (xs : List α) :
    (insertDescending order x xs).Perm (x :: xs) := by
  induction xs with
  | nil => exact .refl _
  | cons y ys ih =>
    simp only [insertDescending]
    split
    · exact (ih.cons y).trans (.swap x y ys)
    · exact .refl _

theorem foldl_insertDescending_perm (order : α → α → Ordering) (xs sorted : List α) :
    (xs.foldl (fun sorted x => insertDescending order x sorted) sorted).Perm (xs ++ sorted) := by
  induction xs generalizing sorted with
  | nil => exact .refl _
  | cons x xs ih =>
    exact (ih _).trans (((insertDescending_perm order x sorted).append_left xs).trans List.perm_middle)

theorem sortBy_perm (order : α → α → Ordering) (xs : List α) : (sortBy order xs).Perm xs := by
  have h := foldl_insertDescending_perm order xs []
  rw [List.append_nil] at h
  exact (List.reverse_perm _).trans h

theorem foldl_insertDescending_of_ascending {order : α → α → Ordering} {xs : List α}
    (ascending : Ascending order xs) {sorted : List α}
    (above : ∀ x ∈ xs, ∀ y ∈ sorted.head?, order x y ≠ .lt) :
    xs.foldl (fun sorted x => insertDescending order x sorted) sorted = xs.reverse ++ sorted := by
  induction xs generalizing sorted with
  | nil => rfl
  | cons x xs ih =>
    obtain ⟨later, ascending⟩ := List.pairwise_cons.1 ascending
    have front : insertDescending order x sorted = x :: sorted := by
      cases sorted with
      | nil => rfl
      | cons y ys => rw [insertDescending, if_neg (above x List.mem_cons_self y rfl)]
    have onward := @ih ascending (x :: sorted) fun z hz y head => by
      cases Option.some.inj head
      exact later z hz
    rw [List.foldl_cons, front, onward, List.reverse_cons, List.append_assoc, List.singleton_append]

theorem sortBy_of_ascending {order : α → α → Ordering} {xs : List α} (ascending : Ascending order xs) :
    sortBy order xs = xs := by
  rw [sortBy, foldl_insertDescending_of_ascending ascending (by simp), List.append_nil, List.reverse_reverse]

/-- A stable sort as it is documented. It may panic where the comparison is no total preorder on the list,
and what it gives there is only known to be a rearrangement. -/
class Sorting where
  sort : {α : Type} → (α → α → Ordering) → List α → Option (List α)
  sort_perm : ∀ {α : Type} {order : α → α → Ordering} {xs ys : List α},
    sort order xs = some ys → ys.Perm xs
  sort_of_preorder : ∀ {α : Type} {order : α → α → Ordering} {xs : List α},
    TotalPreorderOn order (· ∈ xs) → sort order xs = some (sortBy order xs)
  sort_of_ascending : ∀ {α : Type} {order : α → α → Ordering} {xs : List α},
    Ascending order xs → sort order xs = some xs

/-- Insertion for up to 20 elements. A longer list makes this sort panic unless it ascends already or the
comparison is a total preorder on it. -/
@[reducible] def Sorting.guarded : Sorting where
  sort order xs :=
    if xs.length ≤ 20 ∨ Ascending order xs ∨ TotalPreorderOn order (· ∈ xs) then some (sortBy order xs)
    else none
  sort_perm {_ order xs ys} sorted := by
    split at sorted
    · exact Option.some.inj sorted ▸ sortBy_perm order xs
    · cases sorted
  sort_of_preorder preorder := if_pos (.inr (.inr preorder))
  sort_of_ascending ascending := by
    rw [if_pos (.inr (.inl ascending)), sortBy_of_ascending ascending]

end SolutionCheck
