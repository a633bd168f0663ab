/-!
# Insertion-ordered tables

A `Table α` maps names to values and remembers the order in which the names first came in. Writing
a name that is already there replaces its value **in place**: the value follows the last write, the
position the first. Every declaration space of a program is such a table, and every list of names
that a check reports is read off one.

## The view

A table is its list of entries, together with the fact that no name occurs twice. The operations
are described by what they do to two readings of that list: `get?` and `keys`.

* `get?_insert` says what a write does to lookups.
* `keys_insert` says what it does to the order of names.

## Order-free comparison

`SameEntries R t u` says that `t` and `u` bind the same names to `R`-related values, in whatever
order. It is stated through lookups alone and decided by trying the names of both tables.
-/

namespace NominalCheck

/-- Names paired with values, in the order in which the names first came in. -/
structure Table (α : Type) where
  /-- The entries, oldest name first. -/
  entries : List (String × α)
  /-- No name has two entries. -/
  nodup : (entries.map Prod.fst).Nodup
deriving DecidableEq

namespace Table

variable {α : Type}

/-! ### Writing one entry of a list -/

/-- Replaces the value at `key` where it stands, or adds the entry at the end. -/
def upsert (key : String) (value : α) : List (String × α) → List (String × α)
  | [] => [(key, value)]
  | e :: es => if e.1 = key then (key, value) :: es else e :: upsert key value es

/-- A key that is there keeps its place, and a new one goes to the end. -/
theorem map_fst_upsert (key : String) (value : α) (es : List (String × α)) :
    (upsert key value es).map Prod.fst =
      if key ∈ es.map Prod.fst then es.map Prod.fst else es.map Prod.fst ++ [key] := by
  induction es with
  | nil => simp [upsert]
  | cons e es ih =>
    by_cases h : e.1 = key
    · simp [upsert, h]
    · have h' : ¬ key = e.1 := fun hk ↦ h hk.symm
      simp only [upsert, if_neg h, List.map_cons, ih, List.mem_cons, h', false_or]
      split <;> simp

theorem nodup_map_fst_upsert (key : String) (value : α) {es : List (String × α)}
    (hes : (es.map Prod.fst).Nodup) : ((upsert key value es).map Prod.fst).Nodup := by
  rw [map_fst_upsert]
  split
  case isTrue => exact hes
  case isFalse h =>
    refine List.nodup_append.2 ⟨hes, by simp, ?_⟩
    rintro a ha b hb rfl
    exact h (List.mem_singleton.1 hb ▸ ha)

theorem lookup_cons_ite (k n : String) (v : α) (es : List (String × α)) :
    ((n, v) :: es).lookup k = if k = n then some v else es.lookup k := by
  by_cases h : k = n
  · simp [h]
  · have hb : (k == n) = false := by simpa using h
    simp [List.lookup_cons, hb, h]

/-- The entry that was written is the one that is found. -/
theorem lookup_upsert (key k : String) (value : α) (es : List (String × α)) :
    (upsert key value es).lookup k = if k = key then some value else es.lookup k := by
  induction es with
  | nil => simp [upsert, lookup_cons_ite]
  | cons e es ih =>
    obtain ⟨n, v⟩ := e
    by_cases h : n = key
    · subst h
      by_cases hk : k = n <;> simp [upsert, lookup_cons_ite, hk]
    · by_cases hk : k = key
      · subst hk
        have hn : ¬ k = n := fun e ↦ h e.symm
        simpa [upsert, lookup_cons_ite, h, hn] using ih
      · simp [upsert, lookup_cons_ite, h, hk, ih]

/-! ### Tables -/

/-- The table without entries. -/
def empty : Table α where
  entries := []
  nodup := List.nodup_nil

instance : EmptyCollection (Table α) := ⟨empty⟩

instance : Inhabited (Table α) := ⟨empty⟩

/-- The names of the table, oldest first. -/
def keys (t : Table α) : List String := t.entries.map Prod.fst

/-- The value bound to `key`, if there is one. -/
def get? (t : Table α) (key : String) : Option α := t.entries.lookup key

/-- Binds `key` to `value`; a name that is already there keeps its position. -/
def insert (t : Table α) (key : String) (value : α) : Table α where
  entries := upsert key value t.entries
  nodup := nodup_map_fst_upsert key value t.nodup

/-- Makes the given bindings one after the other, so that the last one of a name decides. -/
def insertMany (t : Table α) (bindings : List (String × α)) : Table α :=
  bindings.foldl (fun t b ↦ t.insert b.1 b.2) t

/-- The table that results from making the given bindings in order. -/
def ofList (bindings : List (String × α)) : Table α := empty.insertMany bindings

instance : Membership String (Table α) := ⟨fun t key ↦ key ∈ t.keys⟩

instance (key : String) (t : Table α) : Decidable (key ∈ t) :=
  inferInstanceAs (Decidable (key ∈ t.keys))

/-! ### What the operations do to the view -/

@[simp] theorem entries_empty : (empty : Table α).entries = [] := rfl

@[simp] theorem keys_empty : (empty : Table α).keys = [] := rfl

@[simp] theorem get?_empty (key : String) : (empty : Table α).get? key = none := rfl

@[simp] theorem insertMany_nil (t : Table α) : t.insertMany [] = t := rfl

@[simp] theorem insertMany_cons (t : Table α) (b : String × α) (bs : List (String × α)) :
    t.insertMany (b :: bs) = (t.insert b.1 b.2).insertMany bs := rfl

theorem insertMany_append (t : Table α) (bs cs : List (String × α)) :
    t.insertMany (bs ++ cs) = (t.insertMany bs).insertMany cs :=
  List.foldl_append

theorem mem_iff {key : String} {t : Table α} : key ∈ t ↔ key ∈ t.keys := Iff.rfl

/-- A write is seen at its own name and nowhere else. -/
theorem get?_insert (t : Table α) (key k : String) (value : α) :
    (t.insert key value).get? k = if k = key then some value else t.get? k :=
  lookup_upsert key k value t.entries

@[simp] theorem get?_insert_self (t : Table α) (key : String) (value : α) :
    (t.insert key value).get? key = some value := by
  simp [get?_insert]

/-- A write leaves the order of the names alone, except that a new name comes last. -/
theorem keys_insert (t : Table α) (key : String) (value : α) :
    (t.insert key value).keys = if key ∈ t then t.keys else t.keys ++ [key] :=
  map_fst_upsert key value t.entries

/-- A name is bound exactly if it is among the names. -/
theorem get?_eq_none_iff {t : Table α} {key : String} : t.get? key = none ↔ key ∉ t := by
  rw [mem_iff, get?, List.lookup_eq_none_iff, keys, List.mem_map]
  constructor
  · rintro h ⟨e, he, rfl⟩
    simpa using h e he
  · intro h e he
    simpa using fun hk ↦ h ⟨e, he, Eq.symm hk⟩

/-- The keys of a table are what is found in it. -/
theorem isSome_get?_iff {t : Table α} {key : String} : (t.get? key).isSome ↔ key ∈ t := by
  rw [← Option.ne_none_iff_isSome, ne_eq, get?_eq_none_iff, Decidable.not_not]

/-! ### Order-free comparison -/

/-- The two tables bind the same names, to `R`-related values. -/
def SameEntries (R : α → α → Prop) (t u : Table α) : Prop :=
  ∀ key, Option.Rel R (t.get? key) (u.get? key)

/-- Deciding a relation on optional values by cases. -/
instance decidableOptionRel (R : α → α → Prop) [DecidableRel R] :
    (a b : Option α) → Decidable (Option.Rel R a b)
  | none, none => .isTrue .none
  | none, some _ => .isFalse nofun
  | some _, none => .isFalse nofun
  | some x, some y => decidable_of_iff (R x y) ⟨.some, fun | .some h => h⟩

/-- Only the names that occur in one of the tables have to be tried. -/
theorem sameEntries_iff {R : α → α → Prop} {t u : Table α} :
    t.SameEntries R u ↔ ∀ key ∈ t.keys ++ u.keys, Option.Rel R (t.get? key) (u.get? key) := by
  refine ⟨fun h key _ ↦ h key, fun h key ↦ ?_⟩
  by_cases hk : key ∈ t.keys ++ u.keys
  · exact h key hk
  · rw [List.mem_append, not_or] at hk
    rw [get?_eq_none_iff.2 hk.1, get?_eq_none_iff.2 hk.2]
    exact .none

instance (R : α → α → Prop) [DecidableRel R] (t u : Table α) : Decidable (t.SameEntries R u) :=
  decidable_of_iff _ sameEntries_iff.symm

end Table

end NominalCheck
