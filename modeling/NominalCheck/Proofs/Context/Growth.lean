import NominalCheck.Check.Stmt
import NominalCheck.Proofs.Scope
import NominalCheck.Proofs.Tree.Statements

/-!
# Scopes only grow, and only at top level

What a run of statements does to a scope is a list of bindings, made one after the other. Each of them
is made at top level and for a name that did not resolve at that moment: this is `Introduces`. So no
binding is ever replaced, what resolved before resolves to the same type after (`resolve?_bindMany`),
and in a function nothing is bound at all (`eq_nil_of_function`).

`checkStmt_grows` says that every run has this form, **also a run that fails**: the bindings that were
made before the fault stay. The names that are bound are among those that the statements assign to.
-/

namespace NominalCheck

open CheckM

/-- The bindings can be made one after the other, each at top level and for a name that does not
resolve yet. -/
inductive Introduces (env : Env) : Scope → List (String × Ty) → Prop
  | nil {s : Scope} : Introduces env s []
  | cons {s : Scope} {x : String} {t : Ty} {bs : List (String × Ty)} (htop : s.kind = .topLevel)
      (hx : s.resolve? env x = none) (hbs : Introduces env (s.bind x t) bs) :
      Introduces env s ((x, t) :: bs)

namespace Introduces

variable {env : Env} {s : Scope} {bs cs : List (String × Ty)}

theorem append (hbs : Introduces env s bs) (hcs : Introduces env (s.bindMany bs) cs) :
    Introduces env s (bs ++ cs) := by
  induction hbs with
  | nil => exact hcs
  | cons htop hx _ ih => exact .cons htop hx (ih hcs)

/-- **What resolves keeps its type.** -/
theorem resolve?_bindMany (h : Introduces env s bs) {x : String} {t : Ty}
    (hx : s.resolve? env x = some t) : (s.bindMany bs).resolve? env x = some t := by
  induction h with
  | nil => exact hx
  | @cons s y u bs _ hy _ ih =>
    apply ih
    rw [Scope.resolve?_bind, if_neg, hx]
    rintro rfl
    cases hy.symm.trans hx

/-- What is introduced did not resolve at the start. -/
theorem resolve?_eq_none (h : Introduces env s bs) {b : String × Ty} (hb : b ∈ bs) :
    s.resolve? env b.1 = none := by
  induction h with
  | nil => cases hb
  | @cons s y u bs _ hy _ ih =>
    rcases List.mem_cons.1 hb with rfl | hb
    · exact hy
    · have hrest := ih hb
      rw [Scope.resolve?_bind] at hrest
      split at hrest
      · cases hrest
      · exact hrest

/-- The bindings stand behind those that were there, in the order in which they are made. -/
theorem entries_bindMany (h : Introduces env s bs) :
    (s.bindMany bs).vars.entries = s.vars.entries ++ bs := by
  induction h with
  | nil => exact (List.append_nil _).symm
  | @cons s y u bs _ hy _ ih =>
    have hbind : (s.bind y u).vars.entries = s.vars.entries ++ [(y, u)] :=
      Table.entries_insert_of_notMem (Scope.notMem_of_resolve?_eq_none hy).1 u
    rw [hbind, List.append_assoc, List.singleton_append] at ih
    exact ih

/-- No name is introduced twice, because none has two entries in the scope that results. -/
theorem nodup_names (h : Introduces env s bs) : (bs.map Prod.fst).Nodup := by
  have hnodup := (s.bindMany bs).vars.nodup
  rw [h.entries_bindMany, List.map_append] at hnodup
  exact hnodup.of_append_right

/-- In a function nothing is ever introduced. -/
theorem eq_nil_of_function (h : Introduces env s bs) {r : Ty} (hfun : s.kind = .function r) :
    bs = [] := by
  cases h with
  | nil => rfl
  | cons htop => cases hfun.symm.trans htop

end Introduces

/-- Whatever scope it is started in, the computation introduces bindings of some of the given names and
does nothing else to it. -/
def Grows {α : Type} (env : Env) (names : List String) (x : CheckM α) : Prop :=
  ∀ s, ∃ r bs, runIn s x = (r, s.bindMany bs) ∧ Introduces env s bs ∧ bs.map Prod.fst ⊆ names

namespace Grows

variable {α β : Type} {env : Env} {names : List String}

theorem pure (a : α) : Grows env names (Pure.pure a) :=
  fun _ ↦ ⟨.ok a, [], rfl, .nil, List.nil_subset _⟩

theorem reading (f : Scope → Except TypeError α) : Grows env names (CheckM.reading f) :=
  fun s ↦ ⟨f s, [], rfl, .nil, List.nil_subset _⟩

/-- Computations in a row introduce what the first does and then what the second does. If the first
fails, its bindings **stay**. -/
theorem bind {x : CheckM α} {f : α → CheckM β} (hx : Grows env names x)
    (hf : ∀ a, Grows env names (f a)) : Grows env names (x >>= f) := by
  intro s
  obtain ⟨r, bs, hrun, hbs, hnames⟩ := hx s
  cases r with
  | error e => exact ⟨.error e, bs, by rw [runIn_bind, hrun], hbs, hnames⟩
  | ok a =>
    obtain ⟨r, cs, hrun', hcs, hnames'⟩ := hf a (s.bindMany bs)
    refine ⟨r, bs ++ cs, ?_, hbs.append hcs, ?_⟩
    · rw [runIn_bind, hrun, Scope.bindMany_append]
      exact hrun'
    · rw [List.map_append]
      exact List.append_subset.2 ⟨hnames, hnames'⟩

theorem mono {names' : List String} {x : CheckM α} (hx : Grows env names x) (hsub : names ⊆ names') :
    Grows env names' x := by
  intro s
  obtain ⟨r, bs, hrun, hbs, hnames⟩ := hx s
  exact ⟨r, bs, hrun, hbs, List.Subset.trans hnames hsub⟩

/-- The bindings of a run whose result is known. -/
theorem exists_introduces {s s' : Scope} {x : CheckM α} {r : Except TypeError α}
    (hx : Grows env names x) (h : runIn s x = (r, s')) :
    ∃ bs, Introduces env s bs ∧ s' = s.bindMany bs := by
  obtain ⟨r', bs, hrun, hbs, -⟩ := hx s
  cases hrun.symm.trans h
  exact ⟨bs, hbs, rfl⟩

/-- In a function, the scope is the same before and after. -/
theorem eq_of_function {s s' : Scope} {x : CheckM α} {r : Except TypeError α} {t : Ty}
    (hx : Grows env names x) (hfun : s.kind = .function t) (h : runIn s x = (r, s')) : s' = s := by
  obtain ⟨bs, hbs, rfl⟩ := hx.exists_introduces h
  rw [hbs.eq_nil_of_function hfun]
  rfl

end Grows

variable {cfg : Config} {env : Env}

/-! ### Statements -/

/-- An assignment is the one place where a binding is made. -/
theorem checkAssign_grows (m : Mark Unit) (x : Ident) (e : Expr Unit) :
    Grows env [x.name] (checkAssign cfg env m x e) := by
  intro s
  rw [checkAssign, runIn_bind, runIn_reading]
  cases hx : s.resolve? env x.name with
  | some t =>
    have hgrows : Grows env [x.name] (do
        let e' ← reading fun s ↦ inferExpr cfg env s e
        reading fun _ ↦ checkFits t e'.ann m.span
        Pure.pure (Stmt.assign (m.annotate .none) x e')) :=
      .bind (.reading _) fun _ ↦ .bind (.reading _) fun _ ↦ .pure _
    exact hgrows s
  | none =>
    -- Only at top level and with a value that checks does the run get as far as the binding.
    simp only [runIn_bind, runIn_reading]
    cases htop : s.isTopLevel with
    | false => exact ⟨_, [], rfl, .nil, List.nil_subset _⟩
    | true =>
      simp only [if_true]
      cases inferExpr cfg env s e with
      | error fault => exact ⟨.error fault, [], rfl, .nil, List.nil_subset _⟩
      | ok e' =>
        exact ⟨.ok (.assign (m.annotate .none) x e'), [(x.name, e'.ann)], rfl,
          .cons (Scope.isTopLevel_iff.1 htop) hx .nil, List.Subset.refl _⟩

/-- A block introduces some of the names that its statements assign to. -/
theorem checkBlock_grows_of_forall_mem {b : List (Stmt Unit)}
    (ih : ∀ x ∈ b, Grows env x.assignedNames (checkStmt cfg env x)) :
    Grows env (blockTargets b) (checkBlock cfg env b) := by
  induction b with
  | nil =>
    rw [checkBlock]
    exact .pure _
  | cons x b ihb =>
    rw [checkBlock, blockTargets_cons]
    have hfirst := (ih x List.mem_cons_self).mono (List.subset_append_left _ (blockTargets b))
    have hrest := (ihb fun y hy ↦ ih y (List.mem_cons_of_mem _ hy)).mono
      (List.subset_append_right x.assignedNames _)
    exact .bind hfirst fun _ ↦ .bind hrest fun _ ↦ .pure _

/-- **A statement introduces bindings of names that it assigns to, and does nothing else to its
scope.** -/
theorem checkStmt_grows (x : Stmt Unit) : Grows env x.assignedNames (checkStmt cfg env x) := by
  induction x with
  | assign m y e =>
    rw [checkStmt]
    exact checkAssign_grows m y e
  | destructure m ys e =>
    rw [checkStmt]
    exact .reading _
  | expr m e =>
    rw [checkStmt]
    exact .bind (.reading _) fun _ ↦ .pure _
  | ifElse m c a b iha ihb =>
    rw [checkStmt, Stmt.assignedNames_ifElse]
    have hthen := (checkBlock_grows_of_forall_mem iha).mono
      (List.subset_append_left _ (blockTargets b))
    have helse := (checkBlock_grows_of_forall_mem ihb).mono
      (List.subset_append_right (blockTargets a) _)
    exact .bind (.reading _) fun _ ↦ .bind hthen fun _ ↦ .bind helse fun _ ↦
      .bind (.reading _) fun _ ↦ .pure _
  | ret m e =>
    rw [checkStmt]
    exact .reading _
  | loop m c b ih =>
    rw [checkStmt]
    exact .bind (.reading _) fun _ ↦ .bind (checkBlock_grows_of_forall_mem ih) fun _ ↦ .pure _
  | pass m =>
    rw [checkStmt]
    exact .pure _
  | setField m o y e =>
    rw [checkStmt]
    exact .reading _

theorem checkBlock_grows (b : List (Stmt Unit)) : Grows env (blockTargets b) (checkBlock cfg env b) :=
  checkBlock_grows_of_forall_mem fun x _ ↦ checkStmt_grows x

end NominalCheck
