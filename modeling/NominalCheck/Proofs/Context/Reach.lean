import NominalCheck.Proofs.Tree.Statements
import NominalCheck.Proofs.Typing.Adequacy

/-!
# The scopes that a run leads through, and the types in them

A run of statements leads from one scope to the next by first assignments at top level. `Reaches` keeps
of such a run what later statements can see: each step binds the target of an assignment, a new name, to
the type that the value has **in the scope before**.

Types come from declarations. An expression has a class type because its class is constructed, so that
the class exists, or because a name is declared with that type; nothing ensures that a class of the
declared name exists. `Reaches.knownTypes` says so along every run, and
`HasType.mem_declaredTypes_of_notMem` is what it means for a class that does **not** exist: its type
stands in a declaration.
-/

namespace NominalCheck

open CheckM

variable {cfg : Config} {env : Env} {s s₁ s₂ : Scope}

/-! ### Runs -/

/-- First assignments at top level, all of them among the statements `ys`, lead from the scope `s` to the
other one. -/
inductive Reaches (cfg : Config) (env : Env) (ys : List (Stmt Unit)) (s : Scope) : Scope → Prop
  | refl : Reaches cfg env ys s s
  | bind {s₁ : Scope} {m : Mark Unit} {x : Ident} {e : Expr Unit} {t : Ty}
      (hs : Reaches cfg env ys s s₁) (hassign : .assign m x e ∈ ys) (htop : s₁.kind = .topLevel)
      (hx : s₁.resolve? env x.name = none) (he : HasType cfg env s₁ e t) :
      Reaches cfg env ys s (s₁.bind x.name t)

namespace Reaches

variable {ys zs : List (Stmt Unit)}

theorem trans (h₁ : Reaches cfg env ys s s₁) (h₂ : Reaches cfg env ys s₁ s₂) :
    Reaches cfg env ys s s₂ := by
  induction h₂ with
  | refl => exact h₁
  | bind _ hassign htop hx he ih => exact .bind ih hassign htop hx he

theorem mono (hsub : ys ⊆ zs) (h : Reaches cfg env ys s s₁) : Reaches cfg env zs s s₁ := by
  induction h with
  | refl => exact .refl
  | bind _ hassign htop hx he ih => exact .bind ih (hsub hassign) htop hx he

end Reaches

/-- The statements of a block lead through their scopes one after the other. -/
theorem checkBlock_reaches_of_forall_mem {b : List (Stmt Unit)} {b' : List (Stmt Ty)}
    (ih : ∀ x ∈ b, ∀ x' s s₁, runIn s (checkStmt cfg env x) = (.ok x', s₁) →
      Reaches cfg env x.nodes s s₁)
    (h : runIn s (checkBlock cfg env b) = (.ok b', s₁)) : Reaches cfg env (blockNodes b) s s₁ := by
  induction b generalizing s b' with
  | nil =>
    obtain ⟨-, rfl⟩ := checkBlock_nil_eq_ok_iff.1 h
    exact .refl
  | cons x b ihb =>
    obtain ⟨x', sx, hx, xs', hb, rfl⟩ := checkBlock_cons_eq_ok_iff.1 h
    have hfirst : Reaches cfg env x.nodes s sx := ih x List.mem_cons_self x' s sx hx
    have hrest : Reaches cfg env (blockNodes b) sx s₁ :=
      ihb (fun y hy ↦ ih y (List.mem_cons_of_mem _ hy)) hb
    exact (hfirst.mono (List.subset_append_left _ _)).trans
      (hrest.mono (List.subset_append_right _ _))

/-- **A statement that checks leads to the scope that it leaves.** -/
theorem checkStmt_reaches {x : Stmt Unit} {x' : Stmt Ty}
    (h : runIn s (checkStmt cfg env x) = (.ok x', s₁)) : Reaches cfg env x.nodes s s₁ := by
  induction x generalizing s s₁ x' with
  | assign m y e =>
    obtain ⟨e', he, ⟨bound, -, -, rfl⟩ | ⟨hy, htop, rfl⟩, rfl⟩ := checkStmt_assign_eq_ok_iff.1 h
    · exact .refl
    · exact .bind .refl List.mem_cons_self htop hy (hasType_of_inferExpr he)
  | destructure m ys e => exact absurd h checkStmt_destructure_ne_ok
  | expr m e =>
    obtain ⟨e', -, -, rfl⟩ := checkStmt_expr_eq_ok_iff.1 h
    exact .refl
  | ifElse m c a b iha ihb =>
    obtain ⟨c', -, -, a', sa, ha, b', hb, t, -⟩ := checkStmt_ifElse_eq_ok_iff.1 h
    have hthen := checkBlock_reaches_of_forall_mem (fun x hx _ _ _ ↦ iha x hx) ha
    have helse := checkBlock_reaches_of_forall_mem (fun x hx _ _ _ ↦ ihb x hx) hb
    exact (hthen.mono (Stmt.subset_nodes_then m c a b)).trans
      (helse.mono (Stmt.subset_nodes_else m c a b))
  | ret m e =>
    obtain ⟨r, e', -, -, -, -, rfl⟩ := checkStmt_ret_eq_ok_iff.1 h
    exact .refl
  | loop m c b ih =>
    obtain ⟨c', -, -, b', hb, -⟩ := checkStmt_loop_eq_ok_iff.1 h
    have hbody := checkBlock_reaches_of_forall_mem (fun x hx _ _ _ ↦ ih x hx) hb
    exact hbody.mono (Stmt.subset_nodes_loop m c b)
  | pass m =>
    obtain ⟨-, rfl⟩ := checkStmt_pass_eq_ok_iff.1 h
    exact .refl
  | setField m o y e =>
    obtain ⟨o', -, e', -, c, info, declared, -, -, -, -, -, rfl⟩ :=
      checkStmt_setField_eq_ok_iff.1 h
    exact .refl

theorem checkBlock_reaches {b : List (Stmt Unit)} {b' : List (Stmt Ty)}
    (h : runIn s (checkBlock cfg env b) = (.ok b', s₁)) : Reaches cfg env (blockNodes b) s s₁ :=
  checkBlock_reaches_of_forall_mem (fun _ _ _ _ _ ↦ checkStmt_reaches) h

/-! ### Declared types -/

/-- The types that the members of a class are declared to give. -/
def ClassInfo.types (info : ClassInfo) : List Ty :=
  info.fields.values ++ info.methods.values.map Signature.result

/-- The types that an environment declares its names to give. -/
def Env.types (env : Env) : List Ty :=
  env.globals.values ++ env.functions.values.map Signature.result ++
    env.classes.values.flatMap ClassInfo.types

/-- The declared types of the parameters and local variables of a function. -/
def FunDef.localTypes {α : Type} (f : FunDef α) : List Ty :=
  f.params.map Binder.type ++ f.vars.map fun v ↦ v.binder.type

/-- All types that the declarations of a program and of the environment before it speak of. -/
def declaredTypes {α : Type} (env : Env) (p : Program α) : List Ty :=
  (env.declare p).types ++ p.functions.flatMap FunDef.localTypes

/-- The type is among the given ones, or it is no class type at all, or its class exists. -/
def Ty.KnownIn (env : Env) (ts : List Ty) (t : Ty) : Prop :=
  t ∈ ts ∨ ∀ c, t = .cls c → c ∈ env.classes

/-- All variables of the block have known types. -/
def Scope.KnownTypes (env : Env) (ts : List Ty) (s : Scope) : Prop :=
  ∀ x t, s.vars.get? x = some t → t.KnownIn env ts

theorem Env.mem_types_of_global {x : String} {t : Ty} (h : env.globals.get? x = some t) :
    t ∈ env.types :=
  List.mem_append_left _ (List.mem_append_left _ (Table.mem_values_of_get? h))

theorem Env.mem_types_of_function {f : String} {sig : Signature}
    (h : env.functions.get? f = some sig) : sig.result ∈ env.types :=
  List.mem_append_left _
    (List.mem_append_right _ (List.mem_map_of_mem (Table.mem_values_of_get? h)))

theorem Env.mem_types_of_class {c : String} {info : ClassInfo} {t : Ty}
    (h : env.classes.get? c = some info) (ht : t ∈ info.types) : t ∈ env.types :=
  List.mem_append_right _ (List.mem_flatMap.2 ⟨info, Table.mem_values_of_get? h, ht⟩)

/-- **An expression has a known type.** Only constructions give a type that nothing declares, and
their class exists. -/
theorem HasType.knownIn {ts : List Ty} (hts : env.types ⊆ ts) (hs : s.KnownTypes env ts)
    {e : Expr Unit} {t : Ty} (h : HasType cfg env s e t) : t.KnownIn env ts := by
  induction e generalizing t with
  | literal m v =>
    obtain ⟨hv⟩ := h
    refine Or.inr fun c hc ↦ ?_
    subst hc
    cases hv
  | var m x =>
    obtain - | ⟨hx⟩ := h
    rcases Option.or_eq_some_iff.1 hx with hlocal | ⟨-, hglobal⟩
    · exact hs x t hlocal
    · exact Or.inl (hts (Env.mem_types_of_global hglobal))
  | binary m op l r =>
    obtain - | - | ⟨-, -, hop⟩ := h
    refine Or.inr fun c hc ↦ ?_
    subst hc
    cases hop
  | unary m op e =>
    obtain - | - | - | ⟨-, hop⟩ := h
    refine Or.inr fun c hc ↦ ?_
    subst hc
    cases hop
  | builtinUnary m f e ih =>
    cases h with
    | print _ he => exact ih he
    | builtinUnary _ hsig => exact Or.inl (hts (Env.mem_types_of_function hsig))
  | builtinBinary m f a b =>
    cases h with
    | builtinBinary hsig => exact Or.inl (hts (Env.mem_types_of_function hsig))
  | call m f args =>
    cases h with
    | call _ hsig => exact Or.inl (hts (Env.mem_types_of_function hsig))
    | callClass hcls =>
      refine Or.inr fun c hc ↦ ?_
      cases hc
      exact Table.mem_of_get?_eq_some hcls
  | construct m c args =>
    cases h with
    | construct hcls =>
      refine Or.inr fun c hc ↦ ?_
      cases hc
      exact Table.mem_of_get?_eq_some hcls
  | field m o x =>
    cases h with
    | field _ hcls hx =>
      have hfield : t ∈ ClassInfo.types _ := List.mem_append_left _ (Table.mem_values_of_get? hx)
      exact Or.inl (hts (Env.mem_types_of_class hcls hfield))
  | method m o f args =>
    cases h with
    | method _ hcls hf =>
      have hresult : t ∈ ClassInfo.types _ :=
        List.mem_append_right _ (List.mem_map.2 ⟨_, Table.mem_values_of_get? hf, rfl⟩)
      exact Or.inl (hts (Env.mem_types_of_class hcls hresult))

/-- **Known types stay known along a run.** -/
theorem Reaches.knownTypes {ts : List Ty} {ys : List (Stmt Unit)} (hts : env.types ⊆ ts)
    (h : Reaches cfg env ys s s₁) (hs : s.KnownTypes env ts) : s₁.KnownTypes env ts := by
  induction h with
  | refl => exact hs
  | bind _ _ _ _ he ih =>
    intro y u hy
    rw [Scope.bind, Table.get?_insert] at hy
    split at hy
    case isTrue =>
      cases hy
      exact he.knownIn hts ih
    case isFalse => exact ih y u hy

/-- The body of a function starts with parameters and local variables of declared types. -/
theorem FunDef.knownTypes_scope {α : Type} {f : FunDef α} {ts : List Ty}
    (hts : f.localTypes ⊆ ts) : f.scope.KnownTypes env ts := by
  intro x t hx
  have hbinding : (x, t) ∈ f.params.map Binder.binding ++ f.vars.map VarDef.binding :=
    Table.mem_of_get?_ofList hx
  have htype : t ∈ f.localTypes := by
    have hsnd := List.mem_map_of_mem (f := Prod.snd) hbinding
    rwa [List.map_append, List.map_map, List.map_map] at hsnd
  exact Or.inl (hts htype)

theorem Scope.knownTypes_topLevel (ts : List Ty) : Scope.topLevel.KnownTypes env ts := nofun

/-- **Objects of a class that does not exist come from declarations.** If an expression in a body of a
program has the type of such a class, then the type is declared for some name. -/
theorem HasType.mem_declaredTypes_of_notMem {p : Program Unit} {body : Scope × List (Stmt Unit)}
    {ys : List (Stmt Unit)} (hbody : body ∈ p.bodies) (hs : Reaches cfg (env.declare p) ys body.1 s)
    {e : Expr Unit} {c : String} (he : HasType cfg (env.declare p) s e (.cls c))
    (hc : c ∉ (env.declare p).classes) : .cls c ∈ declaredTypes env p := by
  have hstart : body.1.KnownTypes (env.declare p) (declaredTypes env p) := by
    rcases List.mem_append.1 hbody with hfun | htop
    · obtain ⟨f, hf, rfl⟩ := List.mem_map.1 hfun
      refine FunDef.knownTypes_scope fun t ht ↦ ?_
      exact List.mem_append_right _ (List.mem_flatMap.2 ⟨f, hf, ht⟩)
    · obtain rfl := List.mem_singleton.1 htop
      exact Scope.knownTypes_topLevel _
  have henv : (env.declare p).types ⊆ declaredTypes env p := List.subset_append_left _ _
  rcases he.knownIn henv (hs.knownTypes henv hstart) with hmem | hcls
  · exact hmem
  · exact absurd (hcls c rfl) hc

end NominalCheck
