import NominalCheck.Check.Program
import NominalCheck.Proofs.Outcome
import NominalCheck.Proofs.Scope
import NominalCheck.Proofs.Similar
import NominalCheck.Proofs.Tree.Induction

/-!
# Checking sees a context through its lookups

A check runs in a context: an environment and a scope. Two contexts **agree** if the same names
resolve to the same types and the same functions and classes are declared, whatever the order of the
tables, and wherever a variable is held: in the scope of the one and among the globals of the other.

Checks cannot tell agreeing contexts apart. For expressions this is `inferExpr_congr`, an equation
between outcomes, so it covers the **faults**, too: similar names are drawn from the same set of names.
For statements it is `checkStmt_lockstep`: the two runs have the same outcome and make the same
bindings, each in its own scope, so that they end in agreeing contexts again.
-/

namespace NominalCheck

open CheckM

/-- The two contexts answer every lookup in the same way. -/
structure Agree (env : Env) (s : Scope) (env' : Env) (s' : Scope) : Prop where
  /-- Both are at top level, or both are in functions with one result. -/
  kind : s.kind = s'.kind
  /-- A name resolves on both sides or on neither, and to the same type. -/
  resolve : ∀ x, s.resolve? env x = s'.resolve? env' x
  /-- The functions are the same, in whatever order. -/
  functions : env.functions.SameEntries Eq env'.functions
  /-- The classes are the same, and so are their members. -/
  classes : env.classes.SameEntries ClassInfo.Equiv env'.classes

variable {cfg : Config} {env env' : Env} {s s' : Scope}

theorem ClassInfo.Equiv.refl (c : ClassInfo) : c.Equiv c :=
  ⟨.rfl (fun _ ↦ rfl) c.fields, .rfl (fun _ ↦ rfl) c.methods⟩

/-- Contexts over the same functions and classes agree if they resolve the same variables. -/
theorem Agree.of_resolve (hkind : s.kind = s'.kind)
    (hresolve : ∀ x, s.resolve? env x = s'.resolve? env' x)
    (hfunctions : env.functions = env'.functions) (hclasses : env.classes = env'.classes) :
    Agree env s env' s' where
  kind := hkind
  resolve := hresolve
  functions := hfunctions ▸ .rfl (fun _ ↦ rfl) env.functions
  classes := hclasses ▸ .rfl ClassInfo.Equiv.refl env.classes

/-! ### Names -/

/-- The fault of an unknown name depends on which names there are, not on their order. -/
theorem undefined_congr {name : String} {cs ds : List String} (h : ∀ c, c ∈ cs ↔ c ∈ ds) :
    undefined name cs = undefined name ds := by
  rw [undefined, undefined, similarNames_congr h]

/-- Agreeing contexts have the same variables. -/
theorem Agree.mem_visibleNames_iff (h : Agree env s env' s') (x : String) :
    x ∈ s.visibleNames env ↔ x ∈ s'.visibleNames env' := by
  rw [Scope.mem_visibleNames_iff, Scope.mem_visibleNames_iff, h.resolve]

/-- And they are both at top level or both in a function. -/
theorem Agree.isTopLevel_eq (h : Agree env s env' s') : s.isTopLevel = s'.isTopLevel := by
  rw [Scope.isTopLevel, Scope.isTopLevel, h.kind]

/-- A variable has the same type, or the same fault. -/
theorem variableType_congr (h : Agree env s env' s') (span : Span) (x : String) :
    variableType env s span x = variableType env' s' span x := by
  rw [variableType, variableType, h.resolve, undefined_congr h.mem_visibleNames_iff]

theorem builtinSignature_congr (h : Agree env s env' s') (f : Ident) :
    builtinSignature env f = builtinSignature env' f := by
  rw [builtinSignature, builtinSignature, h.functions.get?_eq, undefined_congr h.functions.mem_iff]

theorem calleeSignature_congr (h : Agree env s env' s') (f : Ident) :
    calleeSignature env f = calleeSignature env' f := by
  have hnames : ∀ c, c ∈ env.functions.keys ++ env.classes.keys ↔
      c ∈ env'.functions.keys ++ env'.classes.keys := by
    intro c
    rw [List.mem_append, List.mem_append]
    exact or_congr (h.functions.mem_iff c) (h.classes.mem_iff c)
  rw [calleeSignature, calleeSignature, h.functions.get?_eq, undefined_congr hnames]

/-! ### Classes

Members of a class may be listed in different orders by the two environments, so the classes that are
found need not be equal; what is looked up in them is. -/

/-- Classes with the same members have the same constructor. -/
theorem ClassInfo.Equiv.constructor?_eq {c d : ClassInfo} (h : c.Equiv d) :
    c.constructor? = d.constructor? :=
  h.2.get?_eq ClassInfo.initName

/-- So they are constructed alike. -/
theorem checkConstruction_congr {c d : ClassInfo} (h : c.Equiv d) (cls : String) (span : Span)
    (args : List (Expr Ty)) :
    checkConstruction cfg c cls span args = checkConstruction cfg d cls span args := by
  rw [checkConstruction, checkConstruction, h.constructor?_eq]

/-- Looking a class up gives the same fault, or classes with the same members. -/
theorem Agree.get?_class_cases (h : Agree env s env' s') (name : String) :
    (env.classes.get? name = none ∧ env'.classes.get? name = none) ∨
      ∃ c d, env.classes.get? name = some c ∧ env'.classes.get? name = some d ∧ c.Equiv d :=
  match env.classes.get? name, env'.classes.get? name, h.classes name with
  | _, _, .none => Or.inl ⟨rfl, rfl⟩
  | _, _, .some hcd => Or.inr ⟨_, _, rfl, rfl, hcd⟩

/-- An unknown class is a fault of the construction, placed at its identifier. -/
theorem constructedClass_of_none {c : Ident} (h : env.classes.get? c.name = none) :
    constructedClass env c = .error ⟨undefined c.name env.classes.keys, c.span⟩ := by
  rw [constructedClass, h]

theorem constructedClass_of_some {c : Ident} {info : ClassInfo}
    (h : env.classes.get? c.name = some info) : constructedClass env c = .ok info := by
  rw [constructedClass, h]

/-- For a member it is placed at the whole use. -/
theorem memberOwner_cls_of_none {name member : String} {span : Span}
    (h : env.classes.get? name = none) : memberOwner env (.cls name) member span =
      .error ⟨undefined name env.classes.keys, span⟩ := by
  simp only [memberOwner, Ty.className?, h]

theorem memberOwner_cls_of_some {name member : String} {span : Span} {info : ClassInfo}
    (h : env.classes.get? name = some info) :
    memberOwner env (.cls name) member span = .ok (name, info) := by
  simp only [memberOwner, Ty.className?, h]

/-- A field is looked up by name, so the order of members does not matter. -/
theorem fieldType_congr (h : Agree env s env' s') (object : Ty) (name : String) (span : Span) :
    fieldType env object name span = fieldType env' object name span := by
  cases object with
  | int => rfl
  | bool => rfl
  | none => rfl
  | cls owner =>
    rw [fieldType, fieldType]
    rcases h.get?_class_cases owner with ⟨hc, hd⟩ | ⟨c, d, hc, hd, hcd⟩
    · rw [memberOwner_cls_of_none hc, memberOwner_cls_of_none hd,
        undefined_congr h.classes.mem_iff]
    · rw [memberOwner_cls_of_some hc, memberOwner_cls_of_some hd, ok_bind, ok_bind]
      simp only [hcd.1.get?_eq]

/-- Nor does it for a method. -/
theorem methodSignature_congr (h : Agree env s env' s') (object : Ty) (name : String)
    (span : Span) :
    methodSignature env object name span = methodSignature env' object name span := by
  cases object with
  | int => rfl
  | bool => rfl
  | none => rfl
  | cls owner =>
    rw [methodSignature, methodSignature]
    rcases h.get?_class_cases owner with ⟨hc, hd⟩ | ⟨c, d, hc, hd, hcd⟩
    · rw [memberOwner_cls_of_none hc, memberOwner_cls_of_none hd,
        undefined_congr h.classes.mem_iff]
    · rw [memberOwner_cls_of_some hc, memberOwner_cls_of_some hd, ok_bind, ok_bind]
      simp only [hcd.2.get?_eq]

/-! ### Expressions -/

/-- Arguments have the same outcome if each of them has. -/
theorem inferArgs_congr {args : List (Expr Unit)}
    (ih : ∀ e ∈ args, inferExpr cfg env s e = inferExpr cfg env' s' e) :
    inferArgs cfg env s args = inferArgs cfg env' s' args := by
  induction args with
  | nil => rfl
  | cons e es ihes =>
    rw [inferArgs, inferArgs, ih e List.mem_cons_self,
      ihes fun a ha ↦ ih a (List.mem_cons_of_mem _ ha)]

/-- **Agreeing contexts give an expression the same outcome**, be it a tree or a fault. -/
theorem inferExpr_congr (h : Agree env s env' s') (e : Expr Unit) :
    inferExpr cfg env s e = inferExpr cfg env' s' e := by
  induction e with
  | literal m v => rw [inferExpr, inferExpr]
  | var m x => rw [inferExpr, inferExpr, variableType_congr h]
  | binary m op l r ihl ihr => simp only [inferExpr, ihl, ihr]
  | unary m op e ih => simp only [inferExpr, ih]
  | builtinUnary m f e ih => simp only [inferExpr, ih, builtinSignature_congr h]
  | builtinBinary m f a b iha ihb => simp only [inferExpr, iha, ihb, builtinSignature_congr h]
  | call m f args ih =>
    have hargs := inferArgs_congr ih
    rcases h.get?_class_cases f.name with ⟨hc, hd⟩ | ⟨c, d, hc, hd, hcd⟩
    · simp only [inferExpr, hc, hd, hargs, calleeSignature_congr h]
    · simp only [inferExpr, hc, hd, hargs, checkConstruction_congr hcd]
  | construct m c args ih =>
    have hargs := inferArgs_congr ih
    rw [inferExpr, inferExpr]
    rcases h.get?_class_cases c.name with ⟨hc, hd⟩ | ⟨c', d', hc, hd, hcd⟩
    · rw [constructedClass_of_none hc, constructedClass_of_none hd,
        undefined_congr h.classes.mem_iff]
      rfl
    · rw [constructedClass_of_some hc, constructedClass_of_some hd, ok_bind, ok_bind, hargs]
      simp only [checkConstruction_congr hcd]
  | field m o x ih => simp only [inferExpr, ih, fieldType_congr h]
  | method m o f args iho ih =>
    simp only [inferExpr, iho, inferArgs_congr ih, methodSignature_congr h]

theorem inferCondition_congr (h : Agree env s env' s') (c : Expr Unit) :
    inferCondition cfg env s c = inferCondition cfg env' s' c := by
  rw [inferCondition, inferCondition, inferExpr_congr h]

/-! ### Running in lockstep -/

/-- Bindings made on both sides keep two contexts in agreement. -/
theorem Agree.bindMany (h : Agree env s env' s') (bs : List (String × Ty)) :
    Agree env (s.bindMany bs) env' (s'.bindMany bs) where
  kind := h.kind
  resolve x := by rw [Scope.resolve?_bindMany, Scope.resolve?_bindMany, h.resolve]
  functions := h.functions
  classes := h.classes

/-- Started in scopes that agree, the two computations have the same outcome and make the same
bindings. -/
def Lockstep {α : Type} (env env' : Env) (x y : CheckM α) : Prop :=
  ∀ s s', Agree env s env' s' →
    ∃ r bs, runIn s x = (r, s.bindMany bs) ∧ runIn s' y = (r, s'.bindMany bs)

namespace Lockstep

variable {α β : Type}

/-- Giving a value binds nothing on either side. -/
theorem pure (a : α) : Lockstep env env' (Pure.pure a) (Pure.pure a) :=
  fun _ _ _ ↦ ⟨.ok a, [], rfl, rfl⟩

/-- What only reads runs in lockstep if agreeing contexts make no difference to it. -/
theorem reading {f g : Scope → Except TypeError α}
    (h : ∀ s s', Agree env s env' s' → f s = g s') :
    Lockstep env env' (CheckM.reading f) (CheckM.reading g) :=
  fun s s' hs ↦ ⟨f s, [], rfl, by rw [h s s' hs]; rfl⟩

/-- Both sides bind the same variable. -/
theorem bindVar (x : String) (t : Ty) :
    Lockstep env env' (CheckM.bindVar x t) (CheckM.bindVar x t) :=
  fun _ _ _ ↦ ⟨.ok (), [(x, t)], rfl, rfl⟩

/-- Where the first steps run in lockstep and the second steps do for every value of the first, the
two sequences do. -/
theorem bind {x y : CheckM α} {f g : α → CheckM β} (hxy : Lockstep env env' x y)
    (hfg : ∀ a, Lockstep env env' (f a) (g a)) : Lockstep env env' (x >>= f) (y >>= g) := by
  intro s s' hs
  obtain ⟨r, bs, hx, hy⟩ := hxy s s' hs
  cases r with
  | error e => exact ⟨.error e, bs, by rw [runIn_bind, hx], by rw [runIn_bind, hy]⟩
  | ok a =>
    obtain ⟨r, cs, hf, hg⟩ := hfg a _ _ (hs.bindMany bs)
    refine ⟨r, bs ++ cs, ?_, ?_⟩
    · rw [runIn_bind, hx, Scope.bindMany_append]
      exact hf
    · rw [runIn_bind, hy, Scope.bindMany_append]
      exact hg

end Lockstep

/-! ### Statements -/

/-- An assignment is a first one on both sides or on neither, since the target resolves alike. -/
theorem checkAssign_lockstep (m : Mark Unit) (x : Ident) (e : Expr Unit) :
    Lockstep env env' (checkAssign cfg env m x e) (checkAssign cfg env' m x e) := by
  have hvalue : Lockstep env env' (reading fun s ↦ inferExpr cfg env s e)
      (reading fun s ↦ inferExpr cfg env' s e) := .reading fun _ _ h ↦ inferExpr_congr h e
  refine .bind (.reading fun s s' h ↦ by rw [h.resolve]) fun bound ↦ ?_
  cases bound with
  | some t => exact .bind hvalue fun e' ↦ .bind (.reading fun _ _ _ ↦ rfl) fun _ ↦ .pure _
  | none =>
    -- Both contexts are at top level or neither is, and a fault lists the same similar names.
    refine .bind (.reading fun s s' h ↦ ?_) fun _ ↦
      .bind hvalue fun e' ↦ .bind (.bindVar _ _) fun _ ↦ .pure _
    rw [h.isTopLevel_eq, undefined_congr h.mem_visibleNames_iff]

theorem checkReturn_congr (h : Agree env s env' s') (m : Mark Unit) (e : Option (Expr Unit)) :
    checkReturn cfg env m e s = checkReturn cfg env' m e s' := by
  have hinfer : inferExpr cfg env s = inferExpr cfg env' s' := funext (inferExpr_congr h)
  rw [checkReturn, checkReturn, h.kind, hinfer]

theorem checkSetField_congr (h : Agree env s env' s') (m : Mark Unit) (o : Expr Unit) (x : Ident)
    (e : Expr Unit) : checkSetField cfg env m o x e s = checkSetField cfg env' m o x e s' := by
  simp only [checkSetField, inferExpr_congr h, fieldType_congr h]

/-- Blocks run in lockstep if their statements do. -/
theorem checkBlock_lockstep_of_forall_mem {b : List (Stmt Unit)}
    (ih : ∀ x ∈ b, Lockstep env env' (checkStmt cfg env x) (checkStmt cfg env' x)) :
    Lockstep env env' (checkBlock cfg env b) (checkBlock cfg env' b) := by
  induction b with
  | nil =>
    rw [checkBlock, checkBlock]
    exact .pure _
  | cons x b ihb =>
    rw [checkBlock, checkBlock]
    exact .bind (ih x List.mem_cons_self) fun _ ↦
      .bind (ihb fun y hy ↦ ih y (List.mem_cons_of_mem _ hy)) fun _ ↦ .pure _

/-- **Agreeing contexts run a statement in lockstep.** -/
theorem checkStmt_lockstep (x : Stmt Unit) :
    Lockstep env env' (checkStmt cfg env x) (checkStmt cfg env' x) := by
  induction x with
  | assign m y e =>
    rw [checkStmt, checkStmt]
    exact checkAssign_lockstep m y e
  | destructure m ys e =>
    rw [checkStmt, checkStmt]
    exact .reading fun _ _ _ ↦ rfl
  | expr m e =>
    rw [checkStmt, checkStmt]
    exact .bind (.reading fun _ _ h ↦ inferExpr_congr h e) fun _ ↦ .pure _
  | ifElse m c a b iha ihb =>
    rw [checkStmt, checkStmt]
    exact .bind (.reading fun _ _ h ↦ inferCondition_congr h c) fun _ ↦
      .bind (checkBlock_lockstep_of_forall_mem iha) fun _ ↦
        .bind (checkBlock_lockstep_of_forall_mem ihb) fun _ ↦
          .bind (.reading fun _ _ _ ↦ rfl) fun _ ↦ .pure _
  | ret m e =>
    rw [checkStmt, checkStmt]
    exact .reading fun _ _ h ↦ checkReturn_congr h m e
  | loop m c b ih =>
    rw [checkStmt, checkStmt]
    exact .bind (.reading fun _ _ h ↦ inferCondition_congr h c) fun _ ↦
      .bind (checkBlock_lockstep_of_forall_mem ih) fun _ ↦ .pure _
  | pass m =>
    rw [checkStmt, checkStmt]
    exact .pure _
  | setField m o y e =>
    rw [checkStmt, checkStmt]
    exact .reading fun _ _ h ↦ checkSetField_congr h m o y e

theorem checkBlock_lockstep (b : List (Stmt Unit)) :
    Lockstep env env' (checkBlock cfg env b) (checkBlock cfg env' b) :=
  checkBlock_lockstep_of_forall_mem fun x _ ↦ checkStmt_lockstep x

/-- A body has the same fault in agreeing contexts, or it comes out as the same statements and leaves
the same bindings. -/
theorem checkBody_cases_of_agree (h : Agree env s env' s') (b : List (Stmt Unit)) :
    (∃ e, checkBody cfg env s b = .error e ∧ checkBody cfg env' s' b = .error e) ∨
      ∃ b' bs, checkBody cfg env s b = .ok (b', s.bindMany bs) ∧
        checkBody cfg env' s' b = .ok (b', s'.bindMany bs) := by
  have hrun : Lockstep env env' (checkBlock cfg env b) (checkBlock cfg env' b) :=
    checkBlock_lockstep b
  obtain ⟨r, bs, hs, hs'⟩ := hrun s s' h
  rw [checkBody, checkBody, hs, hs']
  cases r with
  | error e => exact Or.inl ⟨e, rfl, rfl⟩
  | ok b' => exact Or.inr ⟨b', bs, rfl, rfl⟩

end NominalCheck
