import Mathlib.Data.List.Sort
import NominalCheck.Similar

/-!
# Similar names depend on a set of names

A list that ascends strictly is determined by its members. The ranked names are such a list, and its
members are those candidates that are close enough. So the names that a message offers depend on
**which** candidates there are, and not on their order or number.

The names offered are read off the ranking as well: they are candidates other than the name itself,
close to it, and at most three different ones.
-/

namespace NominalCheck

section Ordered

variable {α : Type} {cmp : α → α → Ordering}

/-- Inserting adds the element and loses nothing. If it is there already, what it replaces is equal
to it. -/
theorem mem_insertOrdered [Std.LawfulEqCmp cmp] {x z : α} {xs : List α} :
    z ∈ insertOrdered cmp x xs ↔ z = x ∨ z ∈ xs := by
  refine ⟨mem_of_mem_insertOrdered, ?_⟩
  rintro (rfl | hz)
  · exact self_mem_insertOrdered cmp z xs
  · induction xs with
    | nil => exact absurd hz List.not_mem_nil
    | cons y ys ih =>
      rw [insertOrdered]
      split
      case h_1 => exact List.mem_cons_of_mem _ hz
      case h_2 heq => rwa [Std.LawfulEqCmp.eq_of_compare heq]
      case h_3 =>
        rcases List.mem_cons.1 hz with rfl | hz
        · exact List.mem_cons_self
        · exact List.mem_cons_of_mem _ (ih hz)

theorem mem_orderedDistinct [Std.LawfulEqCmp cmp] {z : α} {xs : List α} :
    z ∈ orderedDistinct cmp xs ↔ z ∈ xs := by
  induction xs with
  | nil => exact Iff.rfl
  | cons x xs ih =>
    rw [show orderedDistinct cmp (x :: xs) = insertOrdered cmp x (orderedDistinct cmp xs) from rfl,
      mem_insertOrdered, ih, List.mem_cons]

theorem Ascends.nodup [Std.TransCmp cmp] {xs : List α} (hxs : Ascends cmp xs) : xs.Nodup := by
  refine List.Pairwise.imp (fun {a b} hab heq ↦ ?_) hxs
  subst heq
  exact Ordering.noConfusion (Std.ReflCmp.compare_self.symm.trans hab)

/-- Strictly ascending lists with the same members are equal. -/
theorem Ascends.eq_of_mem_iff [Std.TransCmp cmp] {xs ys : List α} (hxs : Ascends cmp xs)
    (hys : Ascends cmp ys) (h : ∀ z, z ∈ xs ↔ z ∈ ys) : xs = ys := by
  have hperm : xs.Perm ys := (List.perm_ext_iff_of_nodup hxs.nodup hys.nodup).2 h
  refine hperm.eq_of_pairwise (fun a b _ _ hab hba ↦ ?_) hxs hys
  have haa : cmp a a = .lt := Std.TransCmp.lt_trans hab hba
  exact Ordering.noConfusion (Std.ReflCmp.compare_self.symm.trans haa)

/-- The ordered list is known by its members: neither order nor repetitions of the input matter. -/
theorem orderedDistinct_congr [Std.TransCmp cmp] [Std.LawfulEqCmp cmp] {xs ys : List α}
    (h : ∀ z, z ∈ xs ↔ z ∈ ys) : orderedDistinct cmp xs = orderedDistinct cmp ys :=
  (ascends_orderedDistinct xs).eq_of_mem_iff (ascends_orderedDistinct ys) fun z ↦ by
    rw [mem_orderedDistinct, mem_orderedDistinct, h]

end Ordered

/-! ### The ranking -/

instance : Std.TransCmp compareRanked :=
  inferInstanceAs (Std.TransCmp (compareLex (compareOn Prod.fst) (compareOn Prod.snd)))

instance : Std.LawfulEqCmp compareRanked where
  eq_of_compare {a b} h := by
    rw [compareRanked, Ordering.then_eq_eq] at h
    exact Prod.ext (Std.LawfulEqOrd.eq_of_compare h.1) (Std.LawfulEqOrd.eq_of_compare h.2)

/-- **The same candidates give the same similar names.** -/
theorem similarNames_congr {name : String} {cs ds : List String} (h : ∀ c, c ∈ cs ↔ c ∈ ds) :
    similarNames name cs = similarNames name ds := by
  have hranked : rankedNames name cs = rankedNames name ds := by
    rw [rankedNames, rankedNames]
    apply orderedDistinct_congr
    intro s
    simp only [List.mem_filter, List.mem_map, h]
  rw [similarNames, similarNames, hranked]

/-! ### The names that are offered -/

section Offered

variable {name c : String} {cs : List String}

theorem mem_rankedNames {d : Nat} :
    (d, c) ∈ rankedNames name cs ↔
      c ∈ cs ∧ d = editDistance name c ∧ c ≠ name ∧ d ≤ maxDistance name := by
  rw [rankedNames, mem_orderedDistinct, List.mem_filter, List.mem_map, decide_eq_true_iff]
  constructor
  · rintro ⟨⟨c', hc, heq⟩, hne, hnear⟩
    obtain ⟨hdistance, rfl⟩ := Prod.mk.inj heq
    exact ⟨hc, hdistance.symm, hne, hnear⟩
  · rintro ⟨hc, hdistance, hne, hnear⟩
    exact ⟨⟨c, hc, by rw [hdistance]⟩, hne, hnear⟩

/-- The names that are offered are candidates, different from the name and close to it. -/
theorem of_mem_similarNames (h : c ∈ similarNames name cs) :
    c ∈ cs ∧ c ≠ name ∧ editDistance name c ≤ maxDistance name := by
  obtain ⟨⟨d, c⟩, hr, rfl⟩ := List.mem_map.1 h
  obtain ⟨hc, hdistance, hne, hnear⟩ := mem_rankedNames.1 (List.mem_of_mem_take hr)
  exact ⟨hc, hne, hdistance ▸ hnear⟩

/-- No name is offered twice: its distance is determined, so it has only one rank. -/
theorem nodup_similarNames : (similarNames name cs).Nodup := by
  have hranked : (rankedNames name cs).Nodup := (ascends_orderedDistinct _).nodup
  refine List.Nodup.map_on ?_ (hranked.sublist (List.take_sublist 3 _))
  rintro ⟨d, c⟩ hr ⟨d', c'⟩ hr' rfl
  obtain ⟨-, hd, -⟩ := mem_rankedNames.1 (List.mem_of_mem_take hr)
  obtain ⟨-, hd', -⟩ := mem_rankedNames.1 (List.mem_of_mem_take hr')
  rw [hd, hd']

theorem length_similarNames_le : (similarNames name cs).length ≤ 3 := by
  rw [similarNames, List.length_map]
  exact List.length_take_le 3 _

end Offered

end NominalCheck
