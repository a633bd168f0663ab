import Mathlib.Data.Finset.Card
import Mathlib.Data.List.Destutter
import Mathlib.Data.String.Basic
import NominalCheck.Proofs.Similar

/-!
# The names that rank first

The names that a message offers are the first three of a **ranking**: the list of all candidates that are
close to the name, each once, that ascends strictly by distance and name (`IsRanking`). There is only one
such list, so what is offered depends on the set of the candidates. And a candidate that ranks before one
that is offered is offered, too.

The ranking can also be found by sorting the candidates with their repetitions and leaving out every
entry with the same name as the one kept before it (`rankedNames_eq_destutter`). This is right because a
name determines its distance: the entries of one name are equal, so sorting puts them **next to each
other**. It is important that this comes before the cut to three names.
-/

namespace NominalCheck

/-! ### Sorting and leaving out repetitions -/

section Destutter

variable {α : Type} {R : α → α → Prop}

/-- Leaving elements out keeps the members if elements are left out only for the sake of equal ones. -/
theorem mem_destutter'_iff [DecidableRel R] {a : α} {xs : List α}
    (h : ∀ x ∈ a :: xs, ∀ y ∈ a :: xs, ¬ R x y → x = y) {z : α} :
    z ∈ xs.destutter' R a ↔ z ∈ a :: xs := by
  induction xs generalizing a with
  | nil => rfl
  | cons b xs ih =>
    by_cases hab : R a b
    · have hrest : z ∈ xs.destutter' R b ↔ z ∈ b :: xs :=
        ih fun x hx y hy ↦ h x (List.mem_cons_of_mem _ hx) y (List.mem_cons_of_mem _ hy)
      rw [List.destutter'_cons_pos _ hab, List.mem_cons, hrest, List.mem_cons (a := z) (b := a)]
    · obtain rfl := h a List.mem_cons_self b (List.mem_cons_of_mem _ List.mem_cons_self) hab
      have hrest : z ∈ xs.destutter' R a ↔ z ∈ a :: xs :=
        ih fun x hx y hy ↦ h x (List.mem_cons_of_mem _ hx) y (List.mem_cons_of_mem _ hy)
      rw [List.destutter'_cons_neg _ hab, hrest, List.mem_cons, List.mem_cons, List.mem_cons]
      tauto

theorem mem_destutter_iff [DecidableRel R] {xs : List α}
    (h : ∀ x ∈ xs, ∀ y ∈ xs, ¬ R x y → x = y) {z : α} : z ∈ xs.destutter R ↔ z ∈ xs := by
  cases xs with
  | nil => rfl
  | cons a xs => exact mem_destutter'_iff h

/-- A sorted list in which neighbours are told apart ascends strictly. -/
theorem ascends_of_isChain {cmp : α → α → Ordering} [Std.TransCmp cmp] [Std.LawfulEqCmp cmp]
    (hR : ∀ x, ¬ R x x) {xs : List α} (hsorted : xs.Pairwise fun a b ↦ (cmp a b).isLE)
    (hchain : xs.IsChain R) : Ascends cmp xs := by
  induction xs with
  | nil => exact List.Pairwise.nil
  | cons a xs ih =>
    obtain ⟨hfirst, hrest⟩ := List.pairwise_cons.1 hsorted
    cases xs with
    | nil => exact List.pairwise_singleton _ _
    | cons b xs =>
      obtain ⟨hab, hchain⟩ := List.isChain_cons_cons.1 hchain
      have hlt : cmp a b = .lt := by
        cases hcmp : cmp a b with
        | lt => rfl
        | eq => exact absurd (Std.LawfulEqCmp.eq_of_compare hcmp ▸ hab) (hR _)
        | gt => exact absurd (hfirst b List.mem_cons_self) (by simp [hcmp])
      have hasc : Ascends cmp (b :: xs) := ih hrest hchain
      refine List.pairwise_cons.2 ⟨fun z hz ↦ ?_, hasc⟩
      rcases List.mem_cons.1 hz with rfl | hz
      · exact hlt
      · exact Std.TransCmp.lt_trans hlt ((List.pairwise_cons.1 hasc).1 z hz)

end Destutter

/-! ### The ranking -/

/-- A name with its distance. -/
def scored (name c : String) : Nat × String := (editDistance name c, c)

/-- The candidates that are close to the name but different from it. -/
def nearNames (name : String) (cs : List String) : Finset String :=
  {c ∈ cs.toFinset | c ≠ name ∧ editDistance name c ≤ max 1 (name.toList.length / 3)}

/-- One name is closer than the other, or it is as close and comes before it in the alphabet. -/
def RanksBefore (name a b : String) : Prop :=
  editDistance name a < editDistance name b ∨ editDistance name a = editDistance name b ∧ a < b

instance (name : String) : DecidableRel (RanksBefore name) :=
  fun _ _ ↦ inferInstanceAs (Decidable (_ ∨ _))

/-- The list enumerates the candidates that are close to the name in the order of their rank. -/
structure IsRanking (name : String) (cs ranking : List String) : Prop where
  pairwise : ranking.Pairwise (RanksBefore name)
  toFinset_eq : ranking.toFinset = nearNames name cs

/-- The candidates that are different from the name and close to it, with their distances. Repeated ones
are repeated here. -/
def nearEntries (name : String) (cs : List String) : List (Nat × String) :=
  ((cs.filter (· ≠ name)).map (scored name)).filter (·.1 ≤ maxDistance name)

theorem compareRanked_swap (a b : Nat × String) : compareRanked b a = (compareRanked a b).swap :=
  Std.OrientedCmp.eq_swap

/-- Any two entries can be compared, which is what sorting asks for. -/
theorem isLE_or_isLE_compareRanked (a b : Nat × String) :
    ((compareRanked a b).isLE || (compareRanked b a).isLE) = true := by
  rw [compareRanked_swap a b]
  cases compareRanked a b <;> rfl

section Ranking

variable {name : String} {cs : List String}

/-- To be ranked before another name is to be closer, or as close and earlier in the order of the
names. -/
theorem compareRanked_scored_iff {a b : String} :
    compareRanked (scored name a) (scored name b) = .lt ↔ RanksBefore name a b := by
  rw [compareRanked, Ordering.then_eq_lt, compare_lt_iff_lt, compare_eq_iff_eq, compare_lt_iff_lt]
  simp only [scored, RanksBefore]

theorem RanksBefore.asymm {a b : String} (hab : RanksBefore name a b) : ¬ RanksBefore name b a := by
  have hlt := compareRanked_scored_iff.2 hab
  rw [← compareRanked_scored_iff, compareRanked_swap, hlt]
  decide

theorem RanksBefore.ne {a b : String} (hab : RanksBefore name a b) : a ≠ b := by
  rintro rfl
  exact hab.asymm hab

theorem eq_scored_iff {d : Nat} {c : String} : (d, c) = scored name c ↔ d = editDistance name c := by
  rw [scored, Prod.mk.injEq, and_iff_left rfl]

/-- The ranked entries are the near names, each with its own distance. -/
theorem mem_rankedNames_iff {r : Nat × String} :
    r ∈ rankedNames name cs ↔ r.2 ∈ nearNames name cs ∧ r = scored name r.2 := by
  obtain ⟨d, c⟩ := r
  rw [mem_rankedNames, nearNames, Finset.mem_filter, List.mem_toFinset, eq_scored_iff, maxDistance]
  constructor
  · rintro ⟨hc, rfl, hne, hnear⟩
    exact ⟨⟨hc, hne, hnear⟩, rfl⟩
  · rintro ⟨⟨hc, hne, hnear⟩, rfl⟩
    exact ⟨hc, rfl, hne, hnear⟩

/-- The ranking with the distances is determined by the names in it. -/
theorem rankedNames_eq_map_scored :
    rankedNames name cs = ((rankedNames name cs).map Prod.snd).map (scored name) := by
  rw [List.map_map]
  refine (List.map_id _).symm.trans (List.map_congr_left fun r hr ↦ ?_)
  exact (mem_rankedNames_iff.1 hr).2

/-- The list that is computed is a ranking, so there is one. -/
theorem isRanking_rankedNames : IsRanking name cs ((rankedNames name cs).map Prod.snd) where
  pairwise := by
    have hasc : Ascends compareRanked (rankedNames name cs) := ascends_orderedDistinct _
    rw [rankedNames_eq_map_scored, Ascends, List.pairwise_map] at hasc
    exact hasc.imp compareRanked_scored_iff.1
  toFinset_eq := by
    ext c
    rw [List.mem_toFinset, List.mem_map]
    constructor
    · rintro ⟨r, hr, rfl⟩
      exact (mem_rankedNames_iff.1 hr).1
    · exact fun hc ↦ ⟨scored name c, mem_rankedNames_iff.2 ⟨hc, rfl⟩, rfl⟩

/-- **There is only one ranking.** -/
theorem IsRanking.eq_rankedNames {ranking : List String} (h : IsRanking name cs ranking) :
    ranking = (rankedNames name cs).map Prod.snd := by
  have hasc : Ascends compareRanked (ranking.map (scored name)) :=
    List.pairwise_map.2 (h.pairwise.imp compareRanked_scored_iff.2)
  have hranked : ranking.map (scored name) = rankedNames name cs := by
    refine hasc.eq_of_mem_iff (ascends_orderedDistinct _) fun r ↦ ?_
    rw [mem_rankedNames_iff, ← h.toFinset_eq, List.mem_toFinset, List.mem_map]
    constructor
    · rintro ⟨c, hc, rfl⟩
      exact ⟨hc, rfl⟩
    · exact fun ⟨hr, heq⟩ ↦ ⟨r.2, hr, heq.symm⟩
  rw [← hranked, List.map_map]
  exact (List.map_id _).symm

/-- A ranking has every candidate that is close to the name, and each once. -/
theorem IsRanking.length_eq {ranking : List String} (h : IsRanking name cs ranking) :
    ranking.length = (nearNames name cs).card := by
  have hnodup : ranking.Nodup := h.pairwise.imp RanksBefore.ne
  rw [← h.toFinset_eq, List.toFinset_card_of_nodup hnodup]

/-- The names that are offered are the first three of any ranking, or all of it. -/
theorem IsRanking.similarNames_eq {ranking : List String} (h : IsRanking name cs ranking) :
    similarNames name cs = ranking.take (min 3 (nearNames name cs).card) := by
  rw [similarNames, List.map_take, ← h.eq_rankedNames, ← h.length_eq, ← List.take_eq_take_min]

/-- What ranks before one of the first elements is one of the first elements. -/
theorem IsRanking.mem_take {ranking : List String} (h : IsRanking name cs ranking) {n : Nat}
    {c d : String} (hc : c ∈ nearNames name cs) (hd : d ∈ ranking.take n) (hcd : RanksBefore name c d) :
    c ∈ ranking.take n := by
  rw [← h.toFinset_eq, List.mem_toFinset, ← List.take_append_drop n ranking] at hc
  refine (List.mem_append.1 hc).resolve_right fun hlate ↦ ?_
  have hsplit := List.take_append_drop n ranking ▸ h.pairwise
  have hdc : RanksBefore name d c := (List.pairwise_append.1 hsplit).2.2 d hd c hlate
  exact hcd.asymm hdc

/-- Filtering with repetitions finds the same entries as filtering without. -/
theorem mem_nearEntries_iff {r : Nat × String} :
    r ∈ nearEntries name cs ↔ r ∈ rankedNames name cs := by
  obtain ⟨d, c⟩ := r
  rw [mem_rankedNames, nearEntries]
  simp only [List.mem_filter, List.mem_map, decide_eq_true_eq]
  constructor
  · rintro ⟨⟨c', ⟨hc, hne⟩, heq⟩, hnear⟩
    obtain ⟨rfl, rfl⟩ := Prod.mk.inj heq
    exact ⟨hc, rfl, hne, hnear⟩
  · rintro ⟨hc, rfl, hne, hnear⟩
    exact ⟨⟨c, ⟨hc, hne⟩, rfl⟩, hnear⟩

/-- **The ranking is found by sorting.** -/
theorem rankedNames_eq_destutter :
    rankedNames name cs =
      ((nearEntries name cs).mergeSort fun a b ↦ (compareRanked a b).isLE).destutter
        fun a b ↦ a.2 ≠ b.2 := by
  have hsorted : ((nearEntries name cs).mergeSort fun a b ↦ (compareRanked a b).isLE).Pairwise
      fun a b ↦ (compareRanked a b).isLE :=
    List.pairwise_mergeSort (fun _ _ _ ↦ Std.TransCmp.isLE_trans) isLE_or_isLE_compareRanked _
  have hasc := ascends_of_isChain (R := fun a b : Nat × String ↦ a.2 ≠ b.2) (fun x hx ↦ hx rfl)
    (hsorted.sublist (List.destutter_sublist _ _)) (List.isChain_destutter _ _)
  refine (ascends_orderedDistinct _).eq_of_mem_iff hasc fun r ↦ ?_
  -- Two entries with the same name have the same distance, so an entry is only left out if an equal
  -- one is kept.
  rw [mem_destutter_iff, List.mem_mergeSort, mem_nearEntries_iff]
  · rfl
  · intro a ha b hb hab
    rw [List.mem_mergeSort, mem_nearEntries_iff, mem_rankedNames_iff] at ha hb
    rw [ha.2, hb.2, not_not.1 hab]

/-- **The names that are offered are the best three.** The candidates that are close to the name have one
ranking, and what is offered are its first three names, or all if there are fewer. So no name is offered
twice, other candidates that form the same set make no difference, and no candidate is passed over for one
that ranks after it. It is the same to sort all entries, to leave out repeated names and then to cut. -/
theorem similarNames_best (name : String) (cs : List String) :
    (∃! ranking, IsRanking name cs ranking) ∧
      (∀ ranking, IsRanking name cs ranking →
        similarNames name cs = ranking.take (min 3 (nearNames name cs).card)) ∧
      (similarNames name cs).Nodup ∧
      (∀ ds : List String, ds.toFinset = cs.toFinset → similarNames name ds = similarNames name cs) ∧
      (∀ c ∈ nearNames name cs, ∀ d ∈ similarNames name cs,
        RanksBefore name c d → c ∈ similarNames name cs) ∧
      similarNames name cs =
        ((((nearEntries name cs).mergeSort fun a b ↦ (compareRanked a b).isLE).destutter
          fun a b ↦ a.2 ≠ b.2).take 3).map Prod.snd := by
  have hranking : IsRanking name cs ((rankedNames name cs).map Prod.snd) := isRanking_rankedNames
  refine ⟨⟨_, hranking, fun _ h ↦ h.eq_rankedNames⟩, fun _ h ↦ h.similarNames_eq, nodup_similarNames,
    fun ds hds ↦ ?_, fun c hc d hd hcd ↦ ?_, ?_⟩
  · refine similarNames_congr fun c ↦ ?_
    rw [← List.mem_toFinset, hds, List.mem_toFinset]
  · rw [hranking.similarNames_eq] at hd ⊢
    exact hranking.mem_take hc hd hcd
  · rw [similarNames, rankedNames_eq_destutter]

/-- Four names are one edit away from `valu`, one of them given twice. The last in the alphabet is the one
that is not offered. -/
theorem similarNames_best_fourNear :
    IsRanking "valu" ["value", "zzz", "vals", "valu", "vale", "value", "val"]
        ["val", "vale", "vals", "value"] ∧
      (nearNames "valu" ["value", "zzz", "vals", "valu", "vale", "value", "val"]).card = 4 ∧
      similarNames "valu" ["value", "zzz", "vals", "valu", "vale", "value", "val"] =
        ["val", "vale", "vals"] := by
  have hranking : IsRanking "valu" ["value", "zzz", "vals", "valu", "vale", "value", "val"]
      ["val", "vale", "vals", "value"] := ⟨by decide, by decide⟩
  have hcard : (nearNames "valu" ["value", "zzz", "vals", "valu", "vale", "value", "val"]).card = 4 :=
    by decide
  refine ⟨hranking, hcard, ?_⟩
  rw [(similarNames_best _ _).2.1 _ hranking, hcard]
  rfl

end Ranking

end NominalCheck
