/-!
# Ordered lists without repetitions

`insertOrdered cmp x xs` puts `x` into the list `xs`, which ascends strictly by `cmp`. An element
that compares equal to `x` gives way to it, so the list still ascends strictly and holds the element
that came last. `orderedDistinct` builds such a list from any other.

* `ascends_insertOrdered` and `ascends_orderedDistinct` say that the results ascend. They need that
  `cmp` is transitive and nothing else.
* Nothing is made up: `mem_of_mem_insertOrdered`.
-/

namespace NominalCheck

variable {α : Type}

/-- Puts `x` at its place, over an element that compares equal to it. -/
def insertOrdered (cmp : α → α → Ordering) (x : α) : List α → List α
  | [] => [x]
  | y :: ys =>
    match cmp x y with
    | .lt => x :: y :: ys
    | .eq => x :: ys
    | .gt => y :: insertOrdered cmp x ys

/-- The elements of a list in ascending order, each once. -/
def orderedDistinct (cmp : α → α → Ordering) (xs : List α) : List α :=
  xs.foldr (insertOrdered cmp) []

/-- Every element compares less than those after it. -/
def Ascends (cmp : α → α → Ordering) (xs : List α) : Prop :=
  xs.Pairwise fun a b ↦ cmp a b = .lt

/-! ### Members -/

/-- The inserted element is in, also where it replaces one that compares as equal. -/
theorem self_mem_insertOrdered (cmp : α → α → Ordering) (x : α) (xs : List α) :
    x ∈ insertOrdered cmp x xs := by
  induction xs with
  | nil => exact List.mem_singleton.2 rfl
  | cons y ys ih =>
    rw [insertOrdered]
    split
    · exact List.mem_cons_self
    · exact List.mem_cons_self
    · exact List.mem_cons_of_mem _ ih

/-- Nothing else is. -/
theorem mem_of_mem_insertOrdered {cmp : α → α → Ordering} {x z : α} {xs : List α}
    (h : z ∈ insertOrdered cmp x xs) : z = x ∨ z ∈ xs := by
  induction xs with
  | nil => exact Or.inl (List.mem_singleton.1 h)
  | cons y ys ih =>
    rw [insertOrdered] at h
    split at h
    · exact List.mem_cons.1 h
    · exact (List.mem_cons.1 h).imp_right (List.mem_cons_of_mem _)
    · rcases List.mem_cons.1 h with rfl | h
      · exact Or.inr List.mem_cons_self
      · exact (ih h).imp_right (List.mem_cons_of_mem _)

/-! ### Order -/

/-- Putting an element in keeps a list ascending. -/
theorem ascends_insertOrdered {cmp : α → α → Ordering} [Std.TransCmp cmp] (x : α) {xs : List α}
    (hxs : Ascends cmp xs) : Ascends cmp (insertOrdered cmp x xs) := by
  induction xs with
  | nil => exact List.pairwise_singleton _ _
  | cons y ys ih =>
    obtain ⟨hy, hys⟩ := List.pairwise_cons.1 hxs
    rw [insertOrdered]
    split
    case h_1 hlt =>
      refine List.pairwise_cons.2 ⟨fun z hz ↦ ?_, hxs⟩
      rcases List.mem_cons.1 hz with rfl | hz
      · exact hlt
      · exact Std.TransCmp.lt_trans hlt (hy z hz)
    case h_2 heq =>
      exact List.pairwise_cons.2 ⟨fun z hz ↦ Std.TransCmp.lt_of_eq_of_lt heq (hy z hz), hys⟩
    case h_3 hgt =>
      refine List.pairwise_cons.2 ⟨fun z hz ↦ ?_, ih hys⟩
      rcases mem_of_mem_insertOrdered hz with rfl | hz
      · exact Std.OrientedCmp.lt_of_gt hgt
      · exact hy z hz

/-- The ordered list of any elements ascends. -/
theorem ascends_orderedDistinct {cmp : α → α → Ordering} [Std.TransCmp cmp] (xs : List α) :
    Ascends cmp (orderedDistinct cmp xs) := by
  induction xs with
  | nil => exact List.Pairwise.nil
  | cons x xs ih => exact ascends_insertOrdered x ih

end NominalCheck
