import Mathlib.Data.List.Forall2
import NominalCheck.Check.Stmt

/-!
# Checks that succeed

A check is put together from smaller ones. It succeeds exactly if each of these succeeds in its turn,
and it fails with the first that does not. The statements here say so for the ways in which checks are
combined: one after the other, over the elements of a list, and with a scope that is carried along.

All of them are equivalences, so that a successful check can be taken apart and put together again.
-/

namespace NominalCheck

section Except

variable {ε α β : Type}

/-- A relation between two lists can be changed member by member of the first. -/
theorem forall₂_imp_of_mem {R S : α → β → Prop} {as : List α} {bs : List β}
    (h : List.Forall₂ R as bs) (hRS : ∀ a ∈ as, ∀ b, R a b → S a b) : List.Forall₂ S as bs := by
  induction h with
  | nil => exact .nil
  | cons hab _ ih =>
    exact .cons (hRS _ List.mem_cons_self _ hab) (ih fun a ha ↦ hRS a (List.mem_cons_of_mem _ ha))

/-- Every member of the second of two related lists has a partner in the first. -/
theorem exists_mem_of_forall₂ {R : α → β → Prop} {as : List α} {bs : List β}
    (h : List.Forall₂ R as bs) {b : β} (hb : b ∈ bs) : ∃ a ∈ as, R a b := by
  obtain ⟨i, hi, rfl⟩ := List.getElem_of_mem hb
  have hi' : i < as.length := h.length_eq ▸ hi
  exact ⟨as[i], List.getElem_mem hi', h.get hi' hi⟩

/-- Where related elements have the same image, lists of them do, too. -/
theorem filterMap_eq_of_forall₂ {γ : Type} {R : α → β → Prop} {f : α → Option γ} {g : β → Option γ}
    {as : List α} {bs : List β} (hR : ∀ {a b}, R a b → g b = f a) (h : List.Forall₂ R as bs) :
    bs.filterMap g = as.filterMap f := by
  induction h with
  | nil => rfl
  | cons hab _ ih => rw [List.filterMap_cons, List.filterMap_cons, hR hab, ih]

theorem ok_bind (a : α) (f : α → Except ε β) : Except.ok a >>= f = f a := rfl

theorem error_bind (e : ε) (f : α → Except ε β) : Except.error e >>= f = .error e := rfl

/-- Two steps succeed exactly if the first does and then the second with its value. -/
theorem bind_eq_ok_iff {x : Except ε α} {f : α → Except ε β} {b : β} :
    x >>= f = .ok b ↔ ∃ a, x = .ok a ∧ f a = .ok b := by
  cases x with
  | error e => exact ⟨nofun, nofun⟩
  | ok a => exact ⟨fun h ↦ ⟨a, rfl, h⟩, fun ⟨_, rfl, h⟩ ↦ h⟩

/-- Two steps fail exactly if the first does, or the second with the value of the first. -/
theorem bind_eq_error_iff {x : Except ε α} {f : α → Except ε β} {e : ε} :
    x >>= f = .error e ↔ x = .error e ∨ ∃ a, x = .ok a ∧ f a = .error e := by
  cases x with
  | error e' =>
    rw [error_bind, Except.error.injEq, Except.error.injEq]
    exact ⟨Or.inl, fun h ↦ h.elim id fun ⟨_, hx, _⟩ ↦ nomatch hx⟩
  | ok a => exact ⟨fun h ↦ Or.inr ⟨a, rfl, h⟩, fun h ↦ h.elim nofun fun ⟨_, rfl, h⟩ ↦ h⟩

@[simp] theorem pure_eq_ok_iff {a b : α} : (pure a : Except ε α) = .ok b ↔ b = a :=
  ⟨fun h ↦ (Except.ok.inj h).symm, fun h ↦ h ▸ rfl⟩

@[simp] theorem pure_ne_error {a : α} {e : ε} : (pure a : Except ε α) ≠ .error e := nofun

/-- A last step that only puts the result together cannot fail. -/
theorem bind_pure_eq_error_iff {x : Except ε α} {g : α → β} {e : ε} :
    (x >>= fun a ↦ pure (g a)) = .error e ↔ x = .error e := by
  rw [bind_eq_error_iff, or_iff_left]
  exact fun ⟨_, _, h⟩ ↦ pure_ne_error h

/-- A check over a list succeeds exactly if it succeeds at every element. -/
theorem mapM_eq_ok_iff {f : α → Except ε β} {as : List α} {bs : List β} :
    as.mapM f = .ok bs ↔ List.Forall₂ (fun a b ↦ f a = .ok b) as bs := by
  induction as generalizing bs with
  | nil =>
    rw [List.mapM_nil, pure_eq_ok_iff, List.forall₂_nil_left_iff]
  | cons a as ih =>
    rw [List.mapM_cons, List.forall₂_cons_left_iff]
    simp only [bind_eq_ok_iff, pure_eq_ok_iff, ih]
    constructor
    · rintro ⟨b, hb, bs, hbs, rfl⟩
      exact ⟨b, bs, hb, hbs, rfl⟩
    · rintro ⟨b, bs, hb, hbs, rfl⟩
      exact ⟨b, hb, bs, hbs, rfl⟩

/-- A check over a list that fails does so at one of the elements, and succeeds at those before it. -/
theorem exists_split_of_mapM_eq_error {f : α → Except ε β} {as : List α} {e : ε}
    (h : as.mapM f = .error e) :
    ∃ before a after, as = before ++ a :: after ∧ (∀ x ∈ before, ∃ b, f x = .ok b) ∧
      f a = .error e := by
  induction as with
  | nil =>
    rw [List.mapM_nil] at h
    exact absurd h pure_ne_error
  | cons a as ih =>
    rw [List.mapM_cons, bind_eq_error_iff] at h
    obtain ha | ⟨b, hb, h⟩ := h
    · exact ⟨[], a, as, rfl, fun _ hx ↦ absurd hx List.not_mem_nil, ha⟩
    · obtain has | ⟨bs, -, hpure⟩ := bind_eq_error_iff.1 h
      · obtain ⟨before, a', after, rfl, hbefore, ha'⟩ := ih has
        exact ⟨a :: before, a', after, rfl, List.forall_mem_cons.2 ⟨⟨b, hb⟩, hbefore⟩, ha'⟩
      · exact absurd hpure pure_ne_error

theorem exists_of_mapM_eq_error {f : α → Except ε β} {as : List α} {e : ε}
    (h : as.mapM f = .error e) : ∃ a ∈ as, f a = .error e := by
  obtain ⟨before, a, after, rfl, -, ha⟩ := exists_split_of_mapM_eq_error h
  exact ⟨a, List.mem_append_right _ List.mem_cons_self, ha⟩

/-- Where a check turns every element into one with the same image, it does so for a list. -/
theorem map_eq_map_of_mapM {γ : Type} {f : α → Except ε β} {g : β → γ} {g' : α → γ} {as : List α}
    {bs : List β} (hf : ∀ {a b}, f a = .ok b → g b = g' a) (h : as.mapM f = .ok bs) :
    bs.map g = as.map g' := by
  have hbs : List.Forall₂ (fun a b ↦ f a = .ok b) as bs := mapM_eq_ok_iff.1 h
  induction hbs with
  | nil => rfl
  | cons hab hbs ih => rw [List.map_cons, List.map_cons, hf hab, ih (mapM_eq_ok_iff.2 hbs)]

/-- A list can be checked exactly if each of its elements can. -/
theorem exists_mapM_eq_ok_iff {f : α → Except ε β} {as : List α} :
    (∃ bs, as.mapM f = .ok bs) ↔ ∀ a ∈ as, ∃ b, f a = .ok b := by
  simp only [mapM_eq_ok_iff]
  induction as with
  | nil => exact ⟨fun _ _ h ↦ absurd h List.not_mem_nil, fun _ ↦ ⟨[], .nil⟩⟩
  | cons a as ih =>
    rw [List.forall_mem_cons, ← ih]
    constructor
    · rintro ⟨bs, hbs⟩
      obtain ⟨b, bs, hb, hbs, -⟩ := List.forall₂_cons_left_iff.1 hbs
      exact ⟨⟨b, hb⟩, ⟨bs, hbs⟩⟩
    · rintro ⟨⟨b, hb⟩, ⟨bs, hbs⟩⟩
      exact ⟨b :: bs, .cons hb hbs⟩

/-- A check of something that may be missing succeeds exactly if it is missing or succeeds. -/
theorem optionMapM_eq_ok_iff {f : α → Except ε β} {a : Option α} {b : Option β} :
    a.mapM f = .ok b ↔ Option.Rel (fun a b ↦ f a = .ok b) a b := by
  cases a with
  | none =>
    rw [show (none : Option α).mapM f = pure none from rfl, pure_eq_ok_iff]
    exact ⟨fun h ↦ h ▸ .none, fun h ↦ by cases h; rfl⟩
  | some a =>
    rw [show (some a).mapM f = f a >>= fun b ↦ pure (some b) from rfl]
    simp only [bind_eq_ok_iff, pure_eq_ok_iff]
    constructor
    · rintro ⟨b, hb, rfl⟩
      exact .some hb
    · rintro ⟨hb⟩
      exact ⟨_, hb, rfl⟩

theorem exists_of_optionMapM_eq_error {f : α → Except ε β} {a : Option α} {e : ε}
    (h : a.mapM f = .error e) : ∃ b ∈ a, f b = .error e := by
  cases a with
  | none => exact absurd h pure_ne_error
  | some a => exact ⟨a, rfl, bind_pure_eq_error_iff.1 h⟩

end Except

namespace CheckM

variable {α β : Type}

/-- Two steps succeed exactly if the first does and then the second, in the scope that the first
leaves. -/
theorem runIn_bind_eq_ok_iff {s s' : Scope} {x : CheckM α} {f : α → CheckM β} {b : β} :
    runIn s (x >>= f) = (.ok b, s') ↔
      ∃ a s₁, runIn s x = (.ok a, s₁) ∧ runIn s₁ (f a) = (.ok b, s') := by
  rw [runIn_bind]
  constructor
  · intro h
    split at h
    case h_1 a s₁ hx => exact ⟨a, s₁, hx, h⟩
    case h_2 => cases h
  · rintro ⟨a, s₁, hx, hf⟩
    rw [hx]
    exact hf

/-- Two steps fail exactly if the first does, or the second in the scope that the first leaves. -/
theorem runIn_bind_eq_error_iff {s s' : Scope} {x : CheckM α} {f : α → CheckM β} {e : TypeError} :
    runIn s (x >>= f) = (.error e, s') ↔ runIn s x = (.error e, s') ∨
      ∃ a s₁, runIn s x = (.ok a, s₁) ∧ runIn s₁ (f a) = (.error e, s') := by
  rw [runIn_bind]
  rcases runIn s x with ⟨e' | a, s₁⟩
  · constructor
    · intro h
      cases h
      exact Or.inl rfl
    · rintro (h | ⟨a, s₂, h, -⟩)
      · cases h
        rfl
      · cases h
  · constructor
    · exact fun h ↦ Or.inr ⟨a, s₁, rfl, h⟩
    · rintro (h | ⟨a', s₂, h, hf⟩)
      · cases h
      · cases h
        exact hf

/-- A computation that only reads leaves the scope as it is, also where it fails. -/
theorem runIn_reading_eq_error_iff {s s' : Scope} {f : Scope → Except TypeError α} {e : TypeError} :
    runIn s (reading f) = (.error e, s') ↔ f s = .error e ∧ s' = s := by
  rw [runIn_reading, Prod.mk.injEq, eq_comm (a := s)]

theorem runIn_pure_ne_error {s s' : Scope} {a : α} {e : TypeError} :
    runIn s (pure a) ≠ (.error e, s') := nofun

theorem runIn_reading_eq_ok_iff {s s' : Scope} {f : Scope → Except TypeError α} {a : α} :
    runIn s (reading f) = (.ok a, s') ↔ f s = .ok a ∧ s' = s := by
  rw [runIn_reading, Prod.mk.injEq, eq_comm (a := s)]

theorem runIn_pure_eq_ok_iff {s s' : Scope} {a b : α} :
    runIn s (pure a) = (.ok b, s') ↔ b = a ∧ s' = s := by
  rw [runIn_pure, Prod.mk.injEq, Except.ok.injEq, eq_comm (a := a), eq_comm (a := s)]

theorem runIn_bindVar_eq_ok_iff {s s' : Scope} {x : String} {t : Ty} {u : Unit} :
    runIn s (bindVar x t) = (.ok u, s') ↔ s' = s.bind x t := by
  rw [runIn_bindVar, Prod.mk.injEq, and_iff_right rfl, eq_comm]

/-- Reading in two steps is one reading of both. -/
theorem reading_bind (x : Except TypeError α) (f : α → Except TypeError β) :
    (reading fun _ ↦ x >>= f) = (reading fun _ ↦ x) >>= fun a ↦ reading fun _ ↦ f a := by
  cases x <;> rfl

/-- A check that is made for its outcome only. -/
theorem discard_eq_bind (x : CheckM α) : discard x = x >>= fun _ ↦ pure () := rfl

/-- A computation whose value is dropped fails as it does with the value. -/
theorem runIn_discard_eq_error_iff {s s' : Scope} {x : CheckM α} {e : TypeError} :
    runIn s (discard x) = (.error e, s') ↔ runIn s x = (.error e, s') := by
  rw [discard_eq_bind, runIn_bind_eq_error_iff, or_iff_left]
  exact fun ⟨_, _, _, h⟩ ↦ runIn_pure_ne_error h

theorem runIn_discard_eq_ok_iff {s s' : Scope} {x : CheckM α} :
    runIn s (discard x) = (.ok (), s') ↔ ∃ a, runIn s x = (.ok a, s') := by
  rw [discard_eq_bind, runIn_bind_eq_ok_iff]
  constructor
  · rintro ⟨a, s₁, hx, hpure⟩
    obtain ⟨-, rfl⟩ := runIn_pure_eq_ok_iff.1 hpure
    exact ⟨a, hx⟩
  · rintro ⟨a, hx⟩
    exact ⟨a, s', hx, rfl⟩

/-- What a computation gives together with the scope that it leaves, or its fault. The scope after a
fault is left out. -/
def outcome (s : Scope) (x : CheckM α) : Except TypeError (α × Scope) :=
  match runIn s x with
  | (.ok a, s') => .ok (a, s')
  | (.error e, _) => .error e

theorem outcome_pure (s : Scope) (a : α) : outcome s (pure a) = .ok (a, s) := rfl

theorem outcome_bindVar (s : Scope) (x : String) (t : Ty) :
    outcome s (bindVar x t) = .ok ((), s.bind x t) := rfl

theorem outcome_reading (s : Scope) (f : Scope → Except TypeError α) :
    outcome s (reading f) = f s >>= fun a ↦ .ok (a, s) := by
  rw [outcome, runIn_reading]
  cases f s <;> rfl

/-- The second computation starts with the value and in the scope of the first. -/
theorem outcome_bind (s : Scope) (x : CheckM α) (f : α → CheckM β) :
    outcome s (x >>= f) = outcome s x >>= fun r ↦ outcome r.2 (f r.1) := by
  rw [outcome, outcome, runIn_bind]
  rcases runIn s x with ⟨e | a, s'⟩ <;> rfl

/-- Checks that are made one after the other fail exactly if one of them does, in the scope that those
before it leave. -/
theorem runIn_forM_eq_error_iff {s s' : Scope} {f : α → CheckM Unit} {as : List α} {e : TypeError} :
    runIn s (forM as f) = (.error e, s') ↔ ∃ before a after s₁, as = before ++ a :: after ∧
      runIn s (forM before f) = (.ok (), s₁) ∧ runIn s₁ (f a) = (.error e, s') := by
  constructor
  · intro h
    induction as generalizing s with
    | nil => exact absurd h runIn_pure_ne_error
    | cons a as ih =>
      rw [List.forM_cons, runIn_bind_eq_error_iff] at h
      obtain ha | ⟨_, s₁, ha, hrest⟩ := h
      · exact ⟨[], a, as, s, rfl, rfl, ha⟩
      · obtain ⟨before, b, after, s₂, rfl, hbefore, hb⟩ := ih hrest
        refine ⟨a :: before, b, after, s₂, rfl, ?_, hb⟩
        rw [List.forM_cons, runIn_bind_eq_ok_iff]
        exact ⟨(), s₁, ha, hbefore⟩
  · rintro ⟨before, a, after, s₁, rfl, hbefore, ha⟩
    rw [List.forM_append, List.forM_cons, runIn_bind_eq_error_iff]
    exact Or.inr ⟨(), s₁, hbefore, runIn_bind_eq_error_iff.2 (Or.inl ha)⟩

end CheckM

end NominalCheck
