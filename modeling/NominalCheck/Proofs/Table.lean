import Mathlib.Data.List.Nodup
import NominalCheck.Table

/-!
# Many writes to a table

What a sequence of writes does to the two readings of a table, and what follows for tables that are
written into one another.

* `get?_insertMany` — the **last** write to a name decides.
* `keys_insertMany` — the names that are new come last, in the order of their **first** write.
* `ext_of_keys_of_get?` — the two readings determine the table, so every equation between tables below
  is proved by comparing readings.
* `get?_insertNew`, `keys_insertNew` — where only names that are **not there yet** are written, the
  first write decides. Nothing that was there is touched: `entries_insertNew` says what is added.
* `Keeps` — what a table is bound to keep when it is written to: the place of every name, and the value
  of every name that is not written.

The two equations that the checker rests on are `insertMany_entries_insertMany`, by which writes can
first be collected in a table of their own and then be copied, and `insertMany_eq_self`, by which
writes that say nothing new have no effect.
-/

namespace NominalCheck.Table

variable {α : Type}

/-! ### Lookups and entries -/

theorem ext_entries {t u : Table α} (h : t.entries = u.entries) : t = u := by
  cases t
  cases u
  cases h
  rfl

/-- In a list without repeated names, an entry is found under its name. -/
theorem lookup_eq_some_iff_mem {es : List (String × α)} (hes : (es.map Prod.fst).Nodup)
    {k : String} {v : α} : es.lookup k = some v ↔ (k, v) ∈ es := by
  induction es with
  | nil => simp
  | cons e es ih =>
    obtain ⟨n, w⟩ := e
    rw [List.map_cons, List.nodup_cons] at hes
    rw [lookup_cons_ite, List.mem_cons, Prod.mk.injEq]
    split
    case isTrue h =>
      subst h
      have hk : (k, v) ∉ es := fun hmem ↦ hes.1 (List.mem_map.2 ⟨(k, v), hmem, rfl⟩)
      simp [hk, eq_comm]
    case isFalse h => simp [h, ih hes.2]

/-- **A lookup is membership**, because no key occurs twice. -/
theorem get?_eq_some_iff {t : Table α} {k : String} {v : α} :
    t.get? k = some v ↔ (k, v) ∈ t.entries :=
  lookup_eq_some_iff_mem t.nodup

theorem mem_of_get?_eq_some {t : Table α} {k : String} {v : α} (h : t.get? k = some v) : k ∈ t := by
  rw [← isSome_get?_iff, h]
  rfl

/-- The values, in the order of their names. -/
def values (t : Table α) : List α := t.entries.map Prod.snd

theorem mem_values_of_get? {t : Table α} {k : String} {v : α} (h : t.get? k = some v) :
    v ∈ t.values :=
  List.mem_map.2 ⟨(k, v), get?_eq_some_iff.1 h, rfl⟩

/-- The order of the names and the values under them determine a table. -/
theorem ext_of_keys_of_get? {t u : Table α} (hkeys : t.keys = u.keys)
    (hget : ∀ k, t.get? k = u.get? k) : t = u := by
  apply ext_entries
  apply List.ext_getElem
  · simpa [keys] using congrArg List.length hkeys
  · intro i hi hi'
    have hfst : t.entries[i].1 = u.entries[i].1 := by
      have h := List.getElem_of_eq hkeys (i := i) (by simpa [keys] using hi)
      simpa [keys] using h
    -- Both entries are found under their common name, so they hold the same value.
    have ht : t.get? t.entries[i].1 = some t.entries[i].2 :=
      get?_eq_some_iff.2 (List.getElem_mem hi)
    have hu : u.get? u.entries[i].1 = some u.entries[i].2 :=
      get?_eq_some_iff.2 (List.getElem_mem hi')
    rw [hget, hfst, hu] at ht
    exact Prod.ext hfst (Option.some.inj ht).symm

/-! ### Many writes -/

/-- The last of the given bindings of a name decides, and the table where there is none. -/
theorem get?_insertMany (t : Table α) (bs : List (String × α)) (k : String) :
    (t.insertMany bs).get? k = (bs.reverse.lookup k).or (t.get? k) := by
  induction bs generalizing t with
  | nil => rfl
  | cons b bs ih =>
    rw [insertMany_cons, ih, get?_insert, List.reverse_cons, List.lookup_append, Option.or_assoc]
    congr 1
    obtain ⟨n, v⟩ := b
    rw [lookup_cons_ite]
    split <;> rfl

/-- What a table of bindings holds is one of the bindings. -/
theorem mem_of_get?_ofList {bs : List (String × α)} {k : String} {v : α}
    (h : (ofList bs).get? k = some v) : (k, v) ∈ bs := by
  rw [ofList, get?_insertMany, get?_empty, Option.or_none, List.lookup_eq_some_iff] at h
  obtain ⟨before, after, hbs, -⟩ := h
  rw [← List.mem_reverse, hbs]
  exact List.mem_append_right _ List.mem_cons_self

/-- The names after one more has come in: a name that is already there keeps its place. -/
def addName (names : List String) (name : String) : List String :=
  if name ∈ names then names else names ++ [name]

theorem mem_addName {names : List String} {name n : String} :
    n ∈ addName names name ↔ n ∈ names ∨ n = name := by
  rw [addName]
  split
  case isTrue h => exact ⟨Or.inl, fun hn ↦ hn.elim id fun hn ↦ hn ▸ h⟩
  case isFalse h => rw [List.mem_append, List.mem_singleton]

theorem mem_foldl_addName {names ns : List String} {n : String} :
    n ∈ ns.foldl addName names ↔ n ∈ names ∨ n ∈ ns := by
  induction ns generalizing names with
  | nil => simp
  | cons m ns ih => rw [List.foldl_cons, ih, mem_addName, List.mem_cons, or_assoc]

/-- Names that are all there already change nothing. -/
theorem foldl_addName_of_forall_mem {names ns : List String} (h : ∀ n ∈ ns, n ∈ names) :
    ns.foldl addName names = names := by
  induction ns with
  | nil => rfl
  | cons n ns ih =>
    rw [List.foldl_cons, addName, if_pos (h n List.mem_cons_self)]
    exact ih fun m hm ↦ h m (List.mem_cons_of_mem _ hm)

/-- Names can be collected before they come in. -/
theorem foldl_addName_addName (names ns : List String) (n : String) :
    (addName ns n).foldl addName names = addName (ns.foldl addName names) n := by
  by_cases h : n ∈ ns
  · have h' : n ∈ ns.foldl addName names := mem_foldl_addName.2 (Or.inr h)
    rw [addName, addName, if_pos h, if_pos h']
  · rw [addName, if_neg h, List.foldl_append, List.foldl_cons, List.foldl_nil]

theorem keys_insert_eq (t : Table α) (k : String) (v : α) :
    (t.insert k v).keys = addName t.keys k :=
  keys_insert t k v

/-- New names come in one after the other, and a value has no part in that. -/
theorem keys_insertMany (t : Table α) (bs : List (String × α)) :
    (t.insertMany bs).keys = (bs.map Prod.fst).foldl addName t.keys := by
  induction bs generalizing t with
  | nil => rfl
  | cons b bs ih => rw [insertMany_cons, ih, keys_insert_eq, List.map_cons, List.foldl_cons]

theorem mem_insertMany {t : Table α} {bs : List (String × α)} {k : String} :
    k ∈ t.insertMany bs ↔ k ∈ t ∨ k ∈ bs.map Prod.fst := by
  rw [mem_iff, keys_insertMany, mem_foldl_addName, mem_iff]

/-! ### Writing new names only -/

/-- Names that come in one after the other stand behind those that were there, each once and in the
order of their first occurrence. -/
theorem foldl_addName_eq_append (names ns : List String) :
    ns.foldl addName names = names ++ (ns.filter (· ∉ names)).eraseDups := by
  induction ns generalizing names with
  | nil => simp
  | cons n ns ih =>
    rw [List.foldl_cons, ih, addName]
    split
    case isTrue hn => simp [hn]
    case isFalse hn =>
      have hfilter : ns.filter (· ∉ names ++ [n]) =
          (ns.filter (· ∉ names)).filter (fun m ↦ !m == n) := by
        rw [List.filter_filter]
        refine List.filter_congr fun m _ ↦ ?_
        simp [Bool.and_comm, Bool.beq_eq_decide_eq]
      have hcons : (n :: ns).filter (· ∉ names) = n :: ns.filter (· ∉ names) := by simp [hn]
      rw [hfilter, hcons, List.eraseDups_cons, List.append_assoc, List.singleton_append]

/-- Makes the given bindings one after the other, save those of names that are bound by then, so that
the first one of a name decides. -/
def insertNew (t : Table α) (bs : List (String × α)) : Table α :=
  bs.foldl (fun t b ↦ if b.1 ∈ t then t else t.insert b.1 b.2) t

@[simp] theorem insertNew_nil (t : Table α) : t.insertNew [] = t := rfl

theorem insertNew_append (t : Table α) (bs cs : List (String × α)) :
    t.insertNew (bs ++ cs) = (t.insertNew bs).insertNew cs :=
  List.foldl_append

theorem insertNew_cons (t : Table α) (b : String × α) (bs : List (String × α)) :
    t.insertNew (b :: bs) = (if b.1 ∈ t then t else t.insert b.1 b.2).insertNew bs := rfl

/-- The table decides, and where it has no binding the first one that is given does. -/
theorem get?_insertNew (t : Table α) (bs : List (String × α)) (k : String) :
    (t.insertNew bs).get? k = (t.get? k).or (bs.lookup k) := by
  induction bs generalizing t with
  | nil => simp
  | cons b bs ih =>
    obtain ⟨n, v⟩ := b
    rw [insertNew_cons, ih, lookup_cons_ite]
    split
    case isTrue hn =>
      -- The binding is passed over, and a lookup of its name does not get as far as that.
      by_cases hk : k = n
      · obtain ⟨w, hw⟩ := Option.isSome_iff_exists.1 (isSome_get?_iff.2 (hk ▸ hn : k ∈ t))
        rw [hw, Option.some_or, Option.some_or]
      · rw [if_neg hk]
    case isFalse hn =>
      rw [get?_insert]
      by_cases hk : k = n
      · rw [if_pos hk, if_pos hk, hk, get?_eq_none_iff.2 hn, Option.some_or, Option.none_or]
      · rw [if_neg hk, if_neg hk]

/-- The keys grow as if every entry were written, since those that are there already keep their
places anyway. -/
theorem keys_insertNew (t : Table α) (bs : List (String × α)) :
    (t.insertNew bs).keys = (bs.map Prod.fst).foldl addName t.keys := by
  induction bs generalizing t with
  | nil => rfl
  | cons b bs ih =>
    have hkeys : (if b.1 ∈ t then t else t.insert b.1 b.2).keys = addName t.keys b.1 := by
      rw [addName]
      split
      case isTrue hb => rw [if_pos (mem_iff.1 hb)]
      case isFalse hb => rw [keys_insert, if_neg hb, if_neg (mt mem_iff.2 hb)]
    rw [insertNew_cons, ih, hkeys, List.map_cons, List.foldl_cons]

/-- A new key is written behind all others. -/
theorem entries_insert_of_notMem {t : Table α} {k : String} (hk : k ∉ t) (v : α) :
    (t.insert k v).entries = t.entries ++ [(k, v)] := by
  have happend : ∀ es : List (String × α), k ∉ es.map Prod.fst →
      upsert k v es = es ++ [(k, v)] := by
    intro es hes
    induction es with
    | nil => rfl
    | cons e es ih =>
      rw [List.map_cons, List.mem_cons, not_or] at hes
      rw [upsert, if_neg (Ne.symm hes.1), ih hes.2, List.cons_append]
  exact happend t.entries hk

/-- New entries never touch the old ones. -/
theorem entries_isPrefix_insertNew (t : Table α) (bs : List (String × α)) :
    t.entries <+: (t.insertNew bs).entries := by
  induction bs generalizing t with
  | nil => exact List.prefix_refl _
  | cons b bs ih =>
    have hfirst : t.entries <+: (if b.1 ∈ t then t else t.insert b.1 b.2).entries := by
      split
      case isTrue => exact List.prefix_refl _
      case isFalse hb =>
        rw [entries_insert_of_notMem hb]
        exact List.prefix_append _ _
    exact hfirst.trans (ih _)

/-- Behind the entries that were there stand the new names, each once and in the order of their first
occurrence, with the value of their first binding. -/
theorem entries_insertNew (t : Table α) (bs : List (String × α)) :
    ∃ fresh, (t.insertNew bs).entries = t.entries ++ fresh ∧
      fresh.map Prod.fst = ((bs.map Prod.fst).filter (· ∉ t)).eraseDups ∧
        ∀ b ∈ fresh, bs.lookup b.1 = some b.2 := by
  obtain ⟨fresh, hfresh⟩ := entries_isPrefix_insertNew t bs
  have hkeys : (t.insertNew bs).keys = t.keys ++ fresh.map Prod.fst := by
    rw [keys, ← hfresh, List.map_append, keys]
  refine ⟨fresh, hfresh.symm, ?_, ?_⟩
  · rw [keys_insertNew, foldl_addName_eq_append] at hkeys
    exact (List.append_cancel_left hkeys).symm
  · intro b hb
    have hget : (t.insertNew bs).get? b.1 = some b.2 := by
      rw [get?_eq_some_iff, ← hfresh]
      exact List.mem_append_right _ hb
    have hnew : b.1 ∉ t := by
      have hnodup : (t.keys ++ fresh.map Prod.fst).Nodup := hkeys ▸ (t.insertNew bs).nodup
      exact fun hmem ↦ (List.nodup_append.1 hnodup).2.2 _ hmem _ (List.mem_map_of_mem hb) rfl
    rw [get?_insertNew, get?_eq_none_iff.2 hnew, Option.none_or] at hget
    exact hget

/-! ### Tables written into one another -/

/-- Copying a table overrides lookups by its own. -/
theorem get?_insertMany_entries (t u : Table α) (k : String) :
    (t.insertMany u.entries).get? k = (u.get? k).or (t.get? k) := by
  have hrev : u.entries.reverse.lookup k = u.get? k := by
    have hnodup : (u.entries.reverse.map Prod.fst).Nodup := by
      rw [List.map_reverse, List.nodup_reverse]
      exact u.nodup
    apply Option.ext
    intro v
    rw [lookup_eq_some_iff_mem hnodup, List.mem_reverse, get?_eq_some_iff]
  rw [get?_insertMany, hrev]

/-- Writing the entries of a table that was written to is writing its entries before, and then the
last one. -/
theorem insertMany_entries_insert (t u : Table α) (k : String) (v : α) :
    t.insertMany (u.insert k v).entries = (t.insertMany u.entries).insert k v := by
  apply ext_of_keys_of_get?
  · calc (t.insertMany (u.insert k v).entries).keys
      _ = (u.insert k v).keys.foldl addName t.keys := keys_insertMany t _
      _ = addName (u.keys.foldl addName t.keys) k := by
        rw [keys_insert_eq, foldl_addName_addName]
      _ = ((t.insertMany u.entries).insert k v).keys := by
        rw [keys_insert_eq, keys_insertMany]
        rfl
  · intro n
    rw [get?_insertMany_entries, get?_insert, get?_insert, get?_insertMany_entries]
    split <;> rfl

/-- Writes that are collected in a table and then copied are writes that come after the copy. -/
theorem insertMany_entries_insertMany (t u : Table α) (bs : List (String × α)) :
    t.insertMany (u.insertMany bs).entries = (t.insertMany u.entries).insertMany bs := by
  induction bs generalizing u with
  | nil => rfl
  | cons b bs ih => rw [insertMany_cons, ih, insertMany_entries_insert, insertMany_cons]

/-- Writes that a table already agrees with have no effect. -/
theorem insertMany_eq_self {t : Table α} {bs : List (String × α)}
    (h : ∀ k v, bs.reverse.lookup k = some v → t.get? k = some v) : t.insertMany bs = t := by
  have hget : ∀ k, (t.insertMany bs).get? k = t.get? k := by
    intro k
    rw [get?_insertMany]
    cases hk : bs.reverse.lookup k with
    | none => rfl
    | some v => exact (h k v hk).symm
  apply ext_of_keys_of_get? _ hget
  rw [keys_insertMany]
  apply foldl_addName_of_forall_mem
  intro n hn
  have hn' : n ∈ t.insertMany bs := mem_insertMany.2 (Or.inr hn)
  rw [← isSome_get?_iff, hget, isSome_get?_iff] at hn'
  exact hn'

/-- Writes that have been made have no effect when they are made again. -/
theorem insertMany_insertMany_self (t : Table α) (bs : List (String × α)) :
    (t.insertMany bs).insertMany bs = t.insertMany bs := by
  apply insertMany_eq_self
  intro k v hk
  rw [get?_insertMany, hk, Option.some_or]

/-! ### What writes leave alone -/

/-- Every name of the first table has its place in the second and, unless it is one of the names
`written`, its value. -/
structure Keeps (t u : Table α) (written : List String) : Prop where
  /-- Old names keep their places, before all new ones. -/
  keys : t.keys <+: u.keys
  /-- What is not written keeps its value. -/
  value : ∀ k ∈ t, k ∉ written → u.get? k = t.get? k

namespace Keeps

variable {t u v : Table α} {written written' : List String}

protected theorem refl (t : Table α) : t.Keeps t [] where
  keys := List.prefix_refl _
  value _ _ _ := rfl

/-- What two changes in a row keep is what neither of them writes. -/
theorem trans (h : t.Keeps u written) (h' : u.Keeps v written') :
    t.Keeps v (written ++ written') where
  keys := h.keys.trans h'.keys
  value k hk hwritten := by
    rw [List.mem_append, not_or] at hwritten
    have hku : k ∈ u := h.keys.subset hk
    rw [h'.value k hku hwritten.2, h.value k hk hwritten.1]

end Keeps

/-- Writing keeps everything but what is written. -/
theorem keeps_insertMany (t : Table α) (bs : List (String × α)) :
    t.Keeps (t.insertMany bs) (bs.map Prod.fst) where
  keys := by
    rw [keys_insertMany, foldl_addName_eq_append]
    exact List.prefix_append _ _
  value k _ hk := by
    have hlookup : bs.reverse.lookup k = none := by
      rw [List.lookup_eq_none_iff]
      intro b hb
      have hne : k ≠ b.1 := fun h ↦ hk (h ▸ List.mem_map_of_mem (List.mem_reverse.1 hb))
      simpa using hne
    rw [get?_insertMany, hlookup, Option.none_or]

/-- Writing new entries keeps everything. -/
theorem keeps_insertNew (t : Table α) (bs : List (String × α)) : t.Keeps (t.insertNew bs) [] where
  keys := (entries_isPrefix_insertNew t bs).map Prod.fst
  value k hk _ := by
    obtain ⟨v, hv⟩ := Option.isSome_iff_exists.1 (isSome_get?_iff.2 hk)
    rw [get?_insertNew, hv, Option.some_or]

/-! ### Order-free comparison -/

theorem SameEntries.get?_eq {t u : Table α} (h : t.SameEntries Eq u) (k : String) :
    t.get? k = u.get? k :=
  match t.get? k, u.get? k, h k with
  | _, _, .none => rfl
  | _, _, .some heq => congrArg some heq

theorem SameEntries.mem_iff {R : α → α → Prop} {t u : Table α} (h : t.SameEntries R u)
    (k : String) : k ∈ t ↔ k ∈ u := by
  have hk : (t.get? k).isSome = (u.get? k).isSome :=
    match t.get? k, u.get? k, h k with
    | _, _, .none => rfl
    | _, _, .some _ => rfl
  rw [← isSome_get?_iff, hk, isSome_get?_iff]

theorem SameEntries.rfl {R : α → α → Prop} (hR : ∀ a, R a a) (t : Table α) :
    t.SameEntries R t := by
  intro k
  cases t.get? k with
  | none => exact .none
  | some a => exact .some (hR a)

end NominalCheck.Table
