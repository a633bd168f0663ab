import Mathlib.Logic.Equiv.Basic
import NominalCheck.Proofs.Tree.Relabelling
import NominalCheck.Proofs.Typing.Stmt

/-!
# Names and places mean nothing to the rules

Checking commutes with every relabelling: a program with other names and other places, checked
against the environment with these names, checks exactly if the program itself does, and what comes
out is the annotated program, the environment and the type with the **same** relabelling. So the
rules compare names with one another and never look at them, with the two exceptions that a
relabelling keeps; and places are handed on and never looked at. Neither `object` nor a builtin
other than `print` has a meaning beyond its entry in the tables.

Faults are left aside, since similar names are found by their letters. An outcome **mirrors**
another one if both are faults, or if both are results and the second is the image of the first
(`Mirrors`). Each function of the checker gets one statement: the relabelled arguments give a
mirrored outcome. The rules of the single nodes come first, and the rest follows the structure of
the checker through `Mirrors.bind`.
-/

namespace NominalCheck

open CheckM

/-! ### Mirrored outcomes -/

/-- Both outcomes are faults, or the second result is the image of the first. -/
inductive Mirrors {α β : Type} (g : α → β) : Except TypeError α → Except TypeError β → Prop
  | ok (a : α) : Mirrors g (.ok a) (.ok (g a))
  | error (e e' : TypeError) : Mirrors g (.error e) (.error e')

namespace Mirrors

variable {α β γ δ : Type}

/-- A result is mirrored by its image. -/
theorem pure {g : α → β} {a : α} {b : β} (h : b = g a) : Mirrors g (Pure.pure a) (Pure.pure b) :=
  h ▸ .ok a

/-- Checks in a row are mirrored step by step. A fault in the first step mirrors any other fault
there. -/
theorem bind {g : α → β} {h : γ → δ} {x : Except TypeError α} {y : Except TypeError β}
    {f : α → Except TypeError γ} {f' : β → Except TypeError δ} (hxy : Mirrors g x y)
    (hff' : ∀ a, Mirrors h (f a) (f' (g a))) : Mirrors h (x >>= f) (y >>= f') := by
  cases hxy with
  | ok a => exact hff' a
  | error e e' => exact .error e e'

/-- A list of checks is mirrored if each of them is. -/
theorem mapM {g : β → δ} {k : α → γ} {f : α → Except TypeError β} {f' : γ → Except TypeError δ}
    {as : List α} (h : ∀ a ∈ as, Mirrors g (f a) (f' (k a))) :
    Mirrors (List.map g) (as.mapM f) ((as.map k).mapM f') := by
  induction as with
  | nil => exact .ok []
  | cons a as ih =>
    rw [List.map_cons, List.mapM_cons, List.mapM_cons]
    exact .bind (h a List.mem_cons_self) fun b ↦
      .bind (ih fun a' ha' ↦ h a' (List.mem_cons_of_mem _ ha')) fun bs ↦ .ok (b :: bs)

theorem optionMapM {g : β → δ} {k : α → γ} {f : α → Except TypeError β}
    {f' : γ → Except TypeError δ} (h : ∀ a, Mirrors g (f a) (f' (k a))) (a : Option α) :
    Mirrors (Option.map g) (a.mapM f) ((a.map k).mapM f') := by
  cases a with
  | none => exact .ok none
  | some a => exact .bind (h a) fun b ↦ .ok (some b)

/-- A choice is mirrored where both sides make the same one. -/
theorem ite {g : α → β} {c c' : Prop} [Decidable c] [Decidable c'] (hc : c' ↔ c)
    {x₁ x₂ : Except TypeError α} {y₁ y₂ : Except TypeError β} (h₁ : Mirrors g x₁ y₁)
    (h₂ : Mirrors g x₂ y₂) : Mirrors g (if c then x₁ else x₂) (if c' then y₁ else y₂) := by
  by_cases h : c
  · rw [if_pos h, if_pos (hc.2 h)]
    exact h₁
  · rw [if_neg h, if_neg (mt hc.1 h)]
    exact h₂

/-- The second check succeeds exactly if the first one does. -/
theorem exists_ok_iff {g : α → β} {x : Except TypeError α} {y : Except TypeError β}
    (h : Mirrors g x y) : (∃ b, y = .ok b) ↔ ∃ a, x = .ok a := by
  cases h with
  | ok a => exact ⟨fun _ ↦ ⟨a, rfl⟩, fun _ ↦ ⟨g a, rfl⟩⟩
  | error e e' => exact ⟨nofun, nofun⟩

/-- What a success is mirrored by is known. -/
theorem eq_ok {g : α → β} {x : Except TypeError α} {y : Except TypeError β} (h : Mirrors g x y)
    {a : α} (hx : x = .ok a) : y = .ok (g a) := by
  cases h with
  | ok a' => rw [Except.ok.inj hx]
  | error e e' => cases hx

end Mirrors

variable (ρ : Relabelling) {cfg : Config} {env : Env} {s : Scope}

/-! ### Names -/

/-- A variable resolves to the same type under its new name. The faults may offer other names. -/
theorem variableType_mirrors (env : Env) (s : Scope) (span span' : Span) (x : String) :
    Mirrors (Ty.relabel ρ) (variableType env s span x)
      (variableType (env.relabel ρ) (s.relabel ρ) span' (ρ.name x)) := by
  rw [variableType, variableType, Scope.resolve?_relabel]
  cases s.resolve? env x with
  | none => exact .error _ _
  | some t => exact .ok t

/-- Functions are found under their new names. -/
theorem get?_functions_relabel (env : Env) (f : Ident) :
    (env.relabel ρ).functions.get? (f.relabel ρ).name =
      (env.functions.get? f.name).map (Signature.relabel ρ) :=
  Table.get?_relabel ρ _ env.functions f.name

/-- And so are classes. -/
theorem get?_classes_relabel (env : Env) (c : String) :
    (env.relabel ρ).classes.get? (ρ.name c) = (env.classes.get? c).map (ClassInfo.relabel ρ) :=
  Table.get?_relabel ρ _ env.classes c

theorem builtinSignature_mirrors (env : Env) (f : Ident) :
    Mirrors (Signature.relabel ρ) (builtinSignature env f)
      (builtinSignature (env.relabel ρ) (f.relabel ρ)) := by
  rw [builtinSignature, builtinSignature, get?_functions_relabel]
  cases env.functions.get? f.name with
  | none => exact .error _ _
  | some sig => exact .ok sig

theorem calleeSignature_mirrors (env : Env) (f : Ident) :
    Mirrors (Signature.relabel ρ) (calleeSignature env f)
      (calleeSignature (env.relabel ρ) (f.relabel ρ)) := by
  rw [calleeSignature, calleeSignature, get?_functions_relabel]
  cases env.functions.get? f.name with
  | none => exact .error _ _
  | some sig => exact .ok sig

theorem constructedClass_mirrors (env : Env) (c : Ident) :
    Mirrors (ClassInfo.relabel ρ) (constructedClass env c)
      (constructedClass (env.relabel ρ) (c.relabel ρ)) := by
  have hget := get?_classes_relabel ρ env c.name
  rw [constructedClass, constructedClass, Ident.relabel, hget]
  cases env.classes.get? c.name with
  | none => exact .error _ _
  | some info => exact .ok info

/-! ### Literals and operators -/

/-- Literals have no names in them, so their types stay. -/
theorem literalType_mirrors (span span' : Span) (v : Literal) :
    Mirrors (Ty.relabel ρ) (literalType span v) (literalType span' v) := by
  cases v with
  | bool b => exact .ok Ty.bool
  | int i => exact .ok Ty.int
  | none => exact .ok Ty.none
  | text t => exact .error _ _

/-- Operators compare types with one another and with the primitive ones. Both survive a renaming. -/
theorem BinaryOp.result?_relabel (op : BinaryOp) (l r : Ty) :
    op.result? (l.relabel ρ) (r.relabel ρ) = (op.result? l r).map (Ty.relabel ρ) := by
  cases op <;> simp only [result?, Ty.relabel_eq_int_iff, Ty.relabel_eq_bool_iff, Ty.relabel_inj,
    Ty.isReference_relabel] <;> split <;> rfl

theorem UnaryOp.result?_relabel (op : UnaryOp) (t : Ty) :
    op.result? (t.relabel ρ) = (op.result? t).map (Ty.relabel ρ) := by
  cases op <;> cases t <;> rfl

theorem binaryType_mirrors (op : BinaryOp) (span span' : Span) (l r : Ty) :
    Mirrors (Ty.relabel ρ) (binaryType op span l r)
      (binaryType op span' (l.relabel ρ) (r.relabel ρ)) := by
  rw [binaryType, binaryType, BinaryOp.result?_relabel]
  cases op.result? l r with
  | none => exact .error _ _
  | some t => exact .ok t

theorem unaryType_mirrors (op : UnaryOp) (span span' : Span) (t : Ty) :
    Mirrors (Ty.relabel ρ) (unaryType op span t) (unaryType op span' (t.relabel ρ)) := by
  rw [unaryType, unaryType, UnaryOp.result?_relabel]
  cases op.result? t with
  | none => exact .error _ _
  | some t => exact .ok t

/-! ### Arguments -/

/-- What is accepted does not depend on names. -/
theorem checkFits_mirrors (expected found : Ty) (span span' : Span) :
    Mirrors id (checkFits expected found span)
      (checkFits (expected.relabel ρ) (found.relabel ρ) span') :=
  .ite (Ty.accepts_relabel_iff ρ) (.ok ()) (.error _ _)

/-- What a builtin accepts does not depend on names, in either direction of reading. -/
theorem Config.builtinAccepts_relabel_iff (cfg : Config) (param arg : Ty) :
    cfg.BuiltinAccepts (param.relabel ρ) (arg.relabel ρ) ↔ cfg.BuiltinAccepts param arg := by
  rw [BuiltinAccepts, BuiltinAccepts, Ty.accepts_relabel_iff, Ty.accepts_relabel_iff]

/-- A checked expression with its names, places and types changed. -/
abbrev relabelTyped : Expr Ty → Expr Ty := Expr.relabel ρ (Ty.relabel ρ)

/-- Checked arguments have the new names in their types. -/
theorem map_ann_relabel (args : List (Expr Ty)) :
    (args.map (relabelTyped ρ)).map Expr.ann = (args.map Expr.ann).map (Ty.relabel ρ) := by
  rw [List.map_map, List.map_map]
  exact List.map_congr_left fun e _ ↦ e.ann_relabel ρ _

/-- Arguments are mirrored under any test that renaming does not change. -/
theorem checkArgs_mirrors {accepts : Ty → Ty → Prop} [DecidableRel accepts]
    (haccepts : ∀ t u, accepts (Ty.relabel ρ t) (u.relabel ρ) ↔ accepts t u) (params : List Ty)
    (args : List (Expr Ty)) :
    Mirrors id (checkArgs accepts params args)
      (checkArgs accepts (params.map (Ty.relabel ρ)) (args.map (relabelTyped ρ))) := by
  induction params generalizing args with
  | nil => exact .ok ()
  | cons param params ih =>
    cases args with
    | nil => exact .ok ()
    | cons arg args =>
      rw [List.map_cons, List.map_cons, checkArgs, checkArgs]
      refine .ite ?_ (ih args) (.error _ _)
      rw [Expr.ann_relabel]
      exact haccepts param arg.ann

/-- The name of a builtin is used for its fault only, so it may be **any** other one. -/
theorem builtinUnaryType_mirrors (cfg : Config) (sig : Signature) (name name' : String)
    (span span' : Span) (arg : Expr Ty) :
    Mirrors (Ty.relabel ρ) (builtinUnaryType cfg sig name span arg)
      (builtinUnaryType cfg (sig.relabel ρ) name' span' (relabelTyped ρ arg)) := by
  obtain ⟨params, r⟩ := sig
  match params with
  | [] => exact .error _ _
  | _ :: _ :: _ => exact .error _ _
  | [p] =>
    have hargs := checkArgs_mirrors ρ (fun _ _ ↦ Ty.accepts_relabel_iff ρ) [p] [arg]
    exact .ite Iff.rfl (.bind hargs fun _ ↦ .ok r) (.ok r)

theorem builtinBinaryType_mirrors (cfg : Config) (sig : Signature) (name name' : String)
    (span span' : Span) (a b : Expr Ty) :
    Mirrors (Ty.relabel ρ) (builtinBinaryType cfg sig name span a b)
      (builtinBinaryType cfg (sig.relabel ρ) name' span' (relabelTyped ρ a)
        (relabelTyped ρ b)) := by
  obtain ⟨params, r⟩ := sig
  match params with
  | [] => exact .error _ _
  | [_] => exact .error _ _
  | _ :: _ :: _ :: _ => exact .error _ _
  | [p, q] =>
    have hargs := checkArgs_mirrors ρ (cfg.builtinAccepts_relabel_iff ρ) [p, q] [a, b]
    exact .bind hargs fun _ ↦ .ok r

/-- Equality of all types is kept since different names stay different. -/
theorem callType_mirrors (sig : Signature) (callee callee' : String) (span span' : Span)
    (args : List (Expr Ty)) :
    Mirrors (Ty.relabel ρ) (callType sig callee span args)
      (callType (sig.relabel ρ) callee' span' (args.map (relabelTyped ρ))) := by
  refine .ite ?_ (.ok sig.result) (.error _ _)
  rw [map_ann_relabel]
  exact (List.map_injective_iff.2 (Ty.relabel_injective ρ)).eq_iff

/-- The constructor is found again because its name is one of the two that stay. -/
theorem checkConstruction_mirrors (cfg : Config) (info : ClassInfo) (cls cls' : String)
    (span span' : Span) (args : List (Expr Ty)) :
    Mirrors id (checkConstruction cfg info cls span args)
      (checkConstruction cfg (info.relabel ρ) cls' span' (args.map (relabelTyped ρ))) := by
  rw [checkConstruction, checkConstruction, ClassInfo.constructor?_relabel, List.length_map]
  cases info.constructor? with
  | none => exact .ite Iff.rfl (.ok ()) (.error _ _)
  | some init =>
    obtain ⟨params, r⟩ := init
    have hlength : (params.map (Ty.relabel ρ)).length = params.length := List.length_map _
    have hargs := checkArgs_mirrors ρ (fun _ _ ↦ Ty.accepts_relabel_iff ρ) params.tail args
    rw [List.map_tail] at hargs
    refine .ite (not_congr (Ty.relabel_eq_none_iff ρ)) (.error _ _) ?_
    refine .ite ?_ (.error _ _) (.ite Iff.rfl hargs (.ok ()))
    show args.length ≠ (params.map (Ty.relabel ρ)).length - 1 ↔ _
    rw [hlength]

/-! ### Members -/

/-- The class of an object is found under its new name, whatever the member is called. -/
theorem memberOwner_mirrors (env : Env) (object : Ty) (member member' : String)
    (span span' : Span) :
    Mirrors (Prod.map ρ.name (ClassInfo.relabel ρ)) (memberOwner env object member span)
      (memberOwner (env.relabel ρ) (object.relabel ρ) member' span') := by
  cases object with
  | int => exact .error _ _
  | bool => exact .error _ _
  | none => exact .error _ _
  | cls c =>
    have hget := get?_classes_relabel ρ env c
    simp only [memberOwner, Ty.relabel, Ty.className?, hget]
    cases env.classes.get? c with
    | none => exact .error _ _
    | some info => exact .ok (c, info)

/-- A field is found under its new name in the renamed class. -/
theorem fieldType_mirrors (env : Env) (object : Ty) (x : String) (span span' : Span) :
    Mirrors (Ty.relabel ρ) (fieldType env object x span)
      (fieldType (env.relabel ρ) (object.relabel ρ) (ρ.name x) span') := by
  refine .bind (memberOwner_mirrors ρ env object x (ρ.name x) span span') fun owner ↦ ?_
  obtain ⟨c, info⟩ := owner
  have hget : (info.relabel ρ).fields.get? (ρ.name x) = (info.fields.get? x).map (Ty.relabel ρ) :=
    Table.get?_relabel ρ _ info.fields x
  simp only [Prod.map, hget]
  cases info.fields.get? x with
  | none => exact .error _ _
  | some t => exact .ok t

/-- And so is a method, with its signature renamed. -/
theorem methodSignature_mirrors (env : Env) (object : Ty) (f : String) (span span' : Span) :
    Mirrors (Prod.map ρ.name (Signature.relabel ρ)) (methodSignature env object f span)
      (methodSignature (env.relabel ρ) (object.relabel ρ) (ρ.name f) span') := by
  refine .bind (memberOwner_mirrors ρ env object f (ρ.name f) span span') fun owner ↦ ?_
  obtain ⟨c, info⟩ := owner
  have hget : (info.relabel ρ).methods.get? (ρ.name f) =
      (info.methods.get? f).map (Signature.relabel ρ) := Table.get?_relabel ρ _ info.methods f
  simp only [Prod.map, hget]
  cases info.methods.get? f with
  | none => exact .error _ _
  | some sig => exact .ok (c, sig)

/-- The receiver of a method is checked like its other arguments. -/
theorem methodType_mirrors (sig : Signature) (cls name cls' name' : String) (span span' : Span)
    (receiver : Expr Ty) (args : List (Expr Ty)) :
    Mirrors (Ty.relabel ρ) (methodType sig cls name span receiver args)
      (methodType (sig.relabel ρ) cls' name' span' (relabelTyped ρ receiver)
        (args.map (relabelTyped ρ))) := by
  have hargs :=
    checkArgs_mirrors ρ (fun _ _ ↦ Ty.accepts_relabel_iff ρ) sig.params (receiver :: args)
  rw [methodType, methodType, List.length_map]
  refine .ite ?_ (.bind hargs fun _ ↦ .ok sig.result) (.error _ _)
  rw [Signature.relabel, List.length_map]

/-! ### Expressions -/

/-- Arguments are mirrored if all of them are. -/
theorem inferArgs_mirrors {args : List (Expr Unit)}
    (ih : ∀ e ∈ args, Mirrors (relabelTyped ρ) (inferExpr cfg env s e)
      (inferExpr cfg (env.relabel ρ) (s.relabel ρ) (e.relabel ρ id))) :
    Mirrors (List.map (relabelTyped ρ)) (inferArgs cfg env s args)
      (inferArgs cfg (env.relabel ρ) (s.relabel ρ) (relabelArgs ρ id args)) := by
  rw [inferArgs_eq_mapM, inferArgs_eq_mapM, relabelArgs_eq_map]
  exact .mapM ih

/-- **A relabelled expression comes out relabelled.** -/
theorem inferExpr_mirrors (cfg : Config) (env : Env) (s : Scope) (e : Expr Unit) :
    Mirrors (relabelTyped ρ) (inferExpr cfg env s e)
      (inferExpr cfg (env.relabel ρ) (s.relabel ρ) (e.relabel ρ id)) := by
  induction e with
  | literal m v =>
    rw [Expr.relabel, inferExpr, inferExpr]
    exact .bind (literalType_mirrors ρ m.span _ v) fun _ ↦ .pure rfl
  | var m x =>
    rw [Expr.relabel, inferExpr, inferExpr]
    exact .bind (variableType_mirrors ρ env s m.span _ x) fun _ ↦ .pure rfl
  | binary m op l r ihl ihr =>
    rw [Expr.relabel, inferExpr, inferExpr]
    refine .bind ihl fun l' ↦ .bind ihr fun r' ↦ ?_
    rw [Expr.ann_relabel, Expr.ann_relabel]
    exact .bind (binaryType_mirrors ρ op m.span _ l'.ann r'.ann) fun _ ↦ .pure rfl
  | unary m op e ih =>
    rw [Expr.relabel, inferExpr, inferExpr]
    refine .bind ih fun e' ↦ ?_
    rw [Expr.ann_relabel]
    exact .bind (unaryType_mirrors ρ op m.span _ e'.ann) fun _ ↦ .pure rfl
  | builtinUnary m f e ih =>
    rw [Expr.relabel, inferExpr, inferExpr]
    -- The one place where a rule asks for a name: a relabelling keeps `print`.
    refine .ite (ρ.name_eq_print_iff f.name) ?_ ?_
    · refine .bind ih fun e' ↦ ?_
      rw [Expr.ann_relabel]
      exact .pure rfl
    · exact .bind (builtinSignature_mirrors ρ env f) fun sig ↦ .bind ih fun e' ↦
        .bind (builtinUnaryType_mirrors ρ cfg sig f.name _ m.span _ e') fun _ ↦ .pure rfl
  | builtinBinary m f a b iha ihb =>
    rw [Expr.relabel, inferExpr, inferExpr]
    exact .bind (builtinSignature_mirrors ρ env f) fun sig ↦ .bind iha fun a' ↦ .bind ihb fun b' ↦
      .bind (builtinBinaryType_mirrors ρ cfg sig f.name _ m.span _ a' b') fun _ ↦ .pure rfl
  | call m f args ih =>
    have hget := get?_classes_relabel ρ env f.name
    rw [Expr.relabel, inferExpr, inferExpr, Ident.relabel, hget]
    cases env.classes.get? f.name with
    | some info =>
      exact .bind (inferArgs_mirrors ρ ih) fun args' ↦
        .bind (checkConstruction_mirrors ρ cfg info f.name _ m.span _ args') fun _ ↦
          .pure (congrArg (Expr.construct _ _) (relabelArgs_eq_map ρ _ args').symm)
    | none =>
      exact .bind (calleeSignature_mirrors ρ env f) fun sig ↦
        .bind (inferArgs_mirrors ρ ih) fun args' ↦
          .bind (callType_mirrors ρ sig f.name _ m.span _ args') fun t ↦
            .pure (congrArg (Expr.call _ _) (relabelArgs_eq_map ρ _ args').symm)
  | construct m c args ih =>
    rw [Expr.relabel, inferExpr, inferExpr]
    exact .bind (constructedClass_mirrors ρ env c) fun info ↦
      .bind (inferArgs_mirrors ρ ih) fun args' ↦
        .bind (checkConstruction_mirrors ρ cfg info c.name _ m.span _ args') fun _ ↦
          .pure (congrArg (Expr.construct _ _) (relabelArgs_eq_map ρ _ args').symm)
  | field m o x ih =>
    rw [Expr.relabel, inferExpr, inferExpr]
    refine .bind ih fun o' ↦ ?_
    rw [Expr.ann_relabel]
    exact .bind (fieldType_mirrors ρ env o'.ann x.name m.span _) fun _ ↦ .pure rfl
  | method m o f args iho ih =>
    rw [Expr.relabel, inferExpr, inferExpr]
    refine .bind iho fun o' ↦ ?_
    rw [Expr.ann_relabel]
    refine .bind (methodSignature_mirrors ρ env o'.ann f.name m.span _) fun owned ↦ ?_
    obtain ⟨c, sig⟩ := owned
    exact .bind (inferArgs_mirrors ρ ih) fun args' ↦
      .bind (methodType_mirrors ρ sig c f.name _ _ m.span _ o' args') fun t ↦
        .pure (congrArg (Expr.method _ _ _) (relabelArgs_eq_map ρ _ args').symm)

/-- A condition stays a truth value, which has no name to change. -/
theorem inferCondition_mirrors (cfg : Config) (env : Env) (s : Scope) (c : Expr Unit) :
    Mirrors (relabelTyped ρ) (inferCondition cfg env s c)
      (inferCondition cfg (env.relabel ρ) (s.relabel ρ) (c.relabel ρ id)) := by
  refine .bind (inferExpr_mirrors ρ cfg env s c) fun c' ↦ .ite ?_ (.pure rfl) (.error _ _)
  rw [Expr.ann_relabel, Ty.relabel_eq_bool_iff]

/-! ### Statements -/

/-- Started in a scope and in the relabelled scope, the two computations have mirrored outcomes, and
the scope that the second leaves is the relabelled one, too. -/
def MirrorsIn {α β : Type} (g : α → β) (x : CheckM α) (y : CheckM β) : Prop :=
  ∀ s, Mirrors (Prod.map g (Scope.relabel ρ)) (outcome s x) (outcome (s.relabel ρ) y)

namespace MirrorsIn

variable {ρ} {α β γ δ : Type}

theorem pure {g : α → β} {a : α} {b : β} (h : b = g a) :
    MirrorsIn ρ g (Pure.pure a) (Pure.pure b) := by
  intro s
  rw [outcome_pure, outcome_pure, h]
  exact .ok (a, s)

/-- A computation that only reads mirrors if it does so in every scope. -/
theorem reading {g : α → β} {f : Scope → Except TypeError α} {f' : Scope → Except TypeError β}
    (h : ∀ s, Mirrors g (f s) (f' (s.relabel ρ))) :
    MirrorsIn ρ g (CheckM.reading f) (CheckM.reading f') := by
  intro s
  rw [outcome_reading, outcome_reading]
  exact .bind (h s) fun a ↦ .ok (a, s)

/-- Binding a variable mirrors binding it under its new name. -/
theorem bindVar (x : String) (t : Ty) :
    MirrorsIn ρ id (CheckM.bindVar x t) (CheckM.bindVar (ρ.name x) (t.relabel ρ)) := by
  intro s
  rw [outcome_bindVar, outcome_bindVar, ← Scope.relabel_bind]
  exact .ok ((), s.bind x t)

/-- Computations in a row mirror step by step, each in the scope that the one before leaves. -/
theorem bind {g : α → β} {h : γ → δ} {x : CheckM α} {y : CheckM β} {f : α → CheckM γ}
    {f' : β → CheckM δ} (hxy : MirrorsIn ρ g x y) (hff' : ∀ a, MirrorsIn ρ h (f a) (f' (g a))) :
    MirrorsIn ρ h (x >>= f) (y >>= f') := by
  intro s
  rw [outcome_bind, outcome_bind]
  exact .bind (hxy s) fun r ↦ hff' r.1 r.2

end MirrorsIn

/-- The type of a block is renamed with it. -/
theorem blockType_relabel (b : List (Stmt Ty)) :
    blockType (relabelBlock ρ (Ty.relabel ρ) b) = (blockType b).relabel ρ := by
  rw [blockType, blockType, relabelBlock_eq_map, List.getLast?_map]
  cases b.getLast? with
  | none => rfl
  | some x => exact x.ann_relabel ρ (Ty.relabel ρ)

/-- Whether two blocks have one type does not depend on names. -/
theorem choiceType_mirrors (span span' : Span) (t u : Ty) :
    Mirrors (Ty.relabel ρ) (choiceType span t u)
      (choiceType span' (t.relabel ρ) (u.relabel ρ)) := by
  have hjoin : (t.relabel ρ).join? (u.relabel ρ) = (t.join? u).map (Ty.relabel ρ) := by
    rw [Ty.join?, Ty.join?, apply_ite (Option.map (Ty.relabel ρ))]
    exact if_congr (Ty.relabel_inj ρ) rfl rfl
  rw [choiceType, choiceType, hjoin]
  cases t.join? u with
  | none => exact .error _ _
  | some t => exact .ok t

/-- An assignment binds the new name exactly where the old one was bound. This is where injectivity
is needed for scopes: a name that is unknown must not become a known one. -/
theorem checkAssign_mirrors (cfg : Config) (env : Env) (m : Mark Unit) (x : Ident) (e : Expr Unit) :
    MirrorsIn ρ (Stmt.relabel ρ (Ty.relabel ρ)) (checkAssign cfg env m x e)
      (checkAssign cfg (env.relabel ρ) (m.relabel ρ id) (x.relabel ρ) (e.relabel ρ id)) := by
  have hbound : MirrorsIn ρ (Option.map (Ty.relabel ρ))
      (reading fun s ↦ .ok (s.resolve? env x.name))
      (reading fun s ↦ .ok (s.resolve? (env.relabel ρ) (x.relabel ρ).name)) := by
    refine .reading fun s ↦ ?_
    rw [Ident.relabel, Scope.resolve?_relabel]
    exact .ok _
  have hvalue : MirrorsIn ρ (relabelTyped ρ) (reading fun s ↦ inferExpr cfg env s e)
      (reading fun s ↦ inferExpr cfg (env.relabel ρ) s (e.relabel ρ id)) :=
    .reading fun s ↦ inferExpr_mirrors ρ cfg env s e
  refine .bind hbound fun bound ↦ ?_
  cases bound with
  | some t =>
    refine .bind hvalue fun e' ↦ ?_
    rw [Expr.ann_relabel]
    exact .bind (.reading fun _ ↦ checkFits_mirrors ρ t e'.ann m.span _) fun _ ↦ .pure rfl
  | none =>
    have htop : MirrorsIn ρ id
        (reading fun s ↦ if s.isTopLevel then .ok ()
          else .error ⟨undefined x.name (s.visibleNames env), x.span⟩)
        (reading fun s ↦ if s.isTopLevel then .ok ()
          else .error ⟨undefined (x.relabel ρ).name (s.visibleNames (env.relabel ρ)),
            (x.relabel ρ).span⟩) := by
      refine .reading fun s ↦ .ite ?_ (.ok ()) (.error _ _)
      rw [Scope.isTopLevel_relabel]
    refine .bind htop fun _ ↦ .bind hvalue fun e' ↦ ?_
    rw [Expr.ann_relabel]
    exact .bind (.bindVar x.name e'.ann) fun _ ↦ .pure rfl

/-- What is given back is compared with the renamed result. -/
theorem checkReturn_mirrors (cfg : Config) (env : Env) (m : Mark Unit) (e : Option (Expr Unit))
    (s : Scope) :
    Mirrors (Stmt.relabel ρ (Ty.relabel ρ)) (checkReturn cfg env m e s)
      (checkReturn cfg (env.relabel ρ) (m.relabel ρ id) (e.map (Expr.relabel ρ id))
        (s.relabel ρ)) := by
  obtain ⟨kind, vars⟩ := s
  cases kind with
  | topLevel => exact .error _ _
  | function r =>
    refine .bind (.optionMapM (inferExpr_mirrors ρ cfg env ⟨.function r, vars⟩) e) fun e' ↦ ?_
    have htype : ((e'.map (relabelTyped ρ)).map Expr.ann).getD .none =
        ((e'.map Expr.ann).getD .none).relabel ρ := by
      cases e' with
      | none => rfl
      | some e' => exact e'.ann_relabel ρ (Ty.relabel ρ)
    rw [htype]
    exact .bind (checkFits_mirrors ρ r _ m.span _) fun _ ↦ .pure rfl

theorem checkSetField_mirrors (cfg : Config) (env : Env) (m : Mark Unit) (o : Expr Unit) (x : Ident)
    (e : Expr Unit) (s : Scope) :
    Mirrors (Stmt.relabel ρ (Ty.relabel ρ)) (checkSetField cfg env m o x e s)
      (checkSetField cfg (env.relabel ρ) (m.relabel ρ id) (o.relabel ρ id) (x.relabel ρ)
        (e.relabel ρ id) (s.relabel ρ)) := by
  refine .bind (inferExpr_mirrors ρ cfg env s o) fun o' ↦ ?_
  rw [Expr.ann_relabel]
  refine .bind (fieldType_mirrors ρ env o'.ann x.name m.span _) fun t ↦
    .bind (inferExpr_mirrors ρ cfg env s e) fun e' ↦ ?_
  rw [Expr.ann_relabel]
  exact .bind (checkFits_mirrors ρ t e'.ann m.span _) fun _ ↦ .pure rfl

/-- Blocks follow their statements. -/
theorem checkBlock_mirrors_of_forall_mem {b : List (Stmt Unit)}
    (ih : ∀ x ∈ b, MirrorsIn ρ (Stmt.relabel ρ (Ty.relabel ρ)) (checkStmt cfg env x)
      (checkStmt cfg (env.relabel ρ) (x.relabel ρ id))) :
    MirrorsIn ρ (relabelBlock ρ (Ty.relabel ρ)) (checkBlock cfg env b)
      (checkBlock cfg (env.relabel ρ) (relabelBlock ρ id b)) := by
  induction b with
  | nil =>
    rw [relabelBlock, checkBlock, checkBlock]
    exact .pure rfl
  | cons x b ihb =>
    rw [relabelBlock, checkBlock, checkBlock]
    exact .bind (ih x List.mem_cons_self) fun _ ↦
      .bind (ihb fun y hy ↦ ih y (List.mem_cons_of_mem _ hy)) fun _ ↦ .pure rfl

/-- **A relabelled statement comes out relabelled**, and so does the scope that it leaves. -/
theorem checkStmt_mirrors (cfg : Config) (env : Env) (x : Stmt Unit) :
    MirrorsIn ρ (Stmt.relabel ρ (Ty.relabel ρ)) (checkStmt cfg env x)
      (checkStmt cfg (env.relabel ρ) (x.relabel ρ id)) := by
  induction x with
  | assign m y e =>
    rw [Stmt.relabel, checkStmt, checkStmt]
    exact checkAssign_mirrors ρ cfg env m y e
  | destructure m ys e =>
    rw [Stmt.relabel, checkStmt, checkStmt]
    exact .reading fun _ ↦ .error _ _
  | expr m e =>
    rw [Stmt.relabel, checkStmt, checkStmt]
    refine .bind (.reading fun s ↦ inferExpr_mirrors ρ cfg env s e) fun e' ↦ ?_
    rw [Expr.ann_relabel]
    exact .pure rfl
  | ifElse m c a b iha ihb =>
    rw [Stmt.relabel, checkStmt, checkStmt]
    refine .bind (.reading fun s ↦ inferCondition_mirrors ρ cfg env s c) fun _ ↦
      .bind (checkBlock_mirrors_of_forall_mem ρ iha) fun a' ↦
        .bind (checkBlock_mirrors_of_forall_mem ρ ihb) fun b' ↦ ?_
    rw [blockType_relabel, blockType_relabel]
    exact .bind (.reading fun _ ↦ choiceType_mirrors ρ m.span _ (blockType a') (blockType b'))
      fun _ ↦ .pure rfl
  | ret m e =>
    rw [Stmt.relabel, checkStmt, checkStmt]
    exact .reading (checkReturn_mirrors ρ cfg env m e)
  | loop m c b ih =>
    rw [Stmt.relabel, checkStmt, checkStmt]
    exact .bind (.reading fun s ↦ inferCondition_mirrors ρ cfg env s c) fun _ ↦
      .bind (checkBlock_mirrors_of_forall_mem ρ ih) fun _ ↦ .pure rfl
  | pass m =>
    rw [Stmt.relabel, checkStmt, checkStmt]
    exact .pure rfl
  | setField m o y e =>
    rw [Stmt.relabel, checkStmt, checkStmt]
    exact .reading (checkSetField_mirrors ρ cfg env m o y e)

/-! ### Definitions and programs -/

/-- A body leaves the renamed scope. -/
theorem checkBody_mirrors (cfg : Config) (env : Env) (s : Scope) (b : List (Stmt Unit)) :
    Mirrors (Prod.map (relabelBlock ρ (Ty.relabel ρ)) (Scope.relabel ρ)) (checkBody cfg env s b)
      (checkBody cfg (env.relabel ρ) (s.relabel ρ) (relabelBlock ρ id b)) := by
  rw [checkBody_eq_outcome, checkBody_eq_outcome]
  exact checkBlock_mirrors_of_forall_mem ρ (fun x _ ↦ checkStmt_mirrors ρ cfg env x) s

theorem checkVarDef_mirrors (v : VarDef Unit) :
    Mirrors (VarDef.relabel ρ (Ty.relabel ρ)) (checkVarDef v) (checkVarDef (v.relabel ρ id)) :=
  .bind (literalType_mirrors ρ v.valueSpan _ v.value) fun t ↦
    .bind (checkFits_mirrors ρ v.binder.type t v.mark.span _) fun _ ↦ .pure rfl

/-- A function starts in the renamed scope of its parameters and variables. -/
theorem checkFunDef_mirrors (cfg : Config) (env : Env) (f : FunDef Unit) :
    Mirrors (FunDef.relabel ρ (Ty.relabel ρ)) (checkFunDef cfg env f)
      (checkFunDef cfg (env.relabel ρ) (f.relabel ρ id)) := by
  rw [checkFunDef, checkFunDef, FunDef.scope_relabel]
  exact .bind (.mapM fun v _ ↦ checkVarDef_mirrors ρ v) fun _ ↦
    .bind (checkBody_mirrors ρ cfg env f.scope f.body) fun _ ↦ .pure rfl

theorem checkClassDef_mirrors (cfg : Config) (env : Env) (c : ClassDef Unit) :
    Mirrors (ClassDef.relabel ρ (Ty.relabel ρ)) (checkClassDef cfg env c)
      (checkClassDef cfg (env.relabel ρ) (c.relabel ρ id)) :=
  .bind (.mapM fun v _ ↦ checkVarDef_mirrors ρ v) fun _ ↦
    .bind (.mapM fun f _ ↦ checkFunDef_mirrors ρ cfg env f) fun _ ↦ .pure rfl

/-- **The check of a program is mirrored as a whole**: declaring before and promoting after it
commute with the renaming, and everything between is covered above. -/
theorem checkProgram_mirrors (cfg : Config) (env : Env) (p : Program Unit) :
    Mirrors (Checked.relabel ρ) (checkProgram cfg env p)
      (checkProgram cfg (env.relabel ρ) (p.relabel ρ id)) := by
  rw [checkProgram, checkProgram, Env.declare_relabel]
  refine .bind (.mapM fun v _ ↦ checkVarDef_mirrors ρ v) fun _ ↦
    .bind (.mapM fun f _ ↦ checkFunDef_mirrors ρ cfg (env.declare p) f) fun _ ↦
      .bind (.mapM fun c _ ↦ checkClassDef_mirrors ρ cfg (env.declare p) c) fun _ ↦
        .bind (checkBody_mirrors ρ cfg (env.declare p) .topLevel p.stmts) fun body ↦ .pure ?_
  obtain ⟨stmts, s⟩ := body
  show Checked.mk _ _ _ = Checked.mk _ _ _
  rw [Checked.mk.injEq]
  exact ⟨rfl, Env.promote_relabel ρ (env.declare p) s, blockType_relabel ρ stmts⟩

/-- **Names and places are opaque to the rules.** With all names changed in the environment and in
the program, and with all places of the program changed, the program checks exactly if it did
before, and its annotated tree, the environment that it leaves and its type are the earlier ones
with the same change. -/
theorem checkProgram_relabel (ρ : Relabelling) (cfg : Config) (env : Env) (p : Program Unit) :
    ((∃ c, checkProgram cfg (env.relabel ρ) (p.relabel ρ id) = .ok c) ↔
      ∃ c, checkProgram cfg env p = .ok c) ∧
    ∀ c, checkProgram cfg env p = .ok c →
      checkProgram cfg (env.relabel ρ) (p.relabel ρ id) = .ok (c.relabel ρ) := by
  have hmirrors := checkProgram_mirrors ρ cfg env p
  exact ⟨hmirrors.exists_ok_iff, fun c hc ↦ hmirrors.eq_ok hc⟩

/-- Exchanges `abs` with `size` and `object` with `Thing`, and puts everything at the same place. -/
def exchanging : Relabelling where
  name := Equiv.swap "abs" "size" ∘ Equiv.swap "object" "Thing"
  span _ := ⟨0, 0⟩
  name_injective := (Equiv.swap "abs" "size").injective.comp (Equiv.swap "object" "Thing").injective
  name_print := by decide
  name_init := by decide

/-- The text `o: object = None\nn = abs(-1)\nprint(o)\n`. -/
def objectChunk : Program Unit :=
  let mark (start stop : Nat) : Mark Unit := ⟨⟨start, stop⟩, ()⟩
  { vars := [⟨⟨⟨"o", ⟨0, 1⟩⟩, .object, ⟨0, 9⟩⟩, .none, ⟨12, 16⟩, mark 0 16⟩]
    funs := []
    classes := []
    stmts := [.assign (mark 17 28) ⟨"n", ⟨17, 18⟩⟩
        (.builtinUnary (mark 21 28) ⟨"abs", ⟨21, 24⟩⟩
          (.unary (mark 25 27) .neg (.literal (mark 26 27) (.int 1)))),
      .expr (mark 29 37) (.builtinUnary (mark 29 37) ⟨"print", ⟨29, 34⟩⟩ (.var (mark 35 36) "o"))]
    span := ⟨0, 38⟩ }

/-- In the renamed environment `abs` is unknown, and the program that calls `size` instead checks.
-/
theorem checkProgram_relabel_objectChunk :
    "abs" ∉ (Env.builtins.relabel exchanging).functions ∧
      ∃ c, checkProgram .strict .builtins objectChunk = .ok c ∧ c.type = .cls "object" ∧
        checkProgram .strict (Env.builtins.relabel exchanging) (objectChunk.relabel exchanging id) =
          .ok (c.relabel exchanging) ∧
        (c.relabel exchanging).type = .cls "Thing" := by
  have hcheck : ∃ c, checkProgram .strict .builtins objectChunk = .ok c ∧ c.type = .cls "object" :=
    ⟨_, rfl, rfl⟩
  obtain ⟨c, hc, htype⟩ := hcheck
  have htype' : (c.relabel exchanging).type = .cls "Thing" := by
    show c.type.relabel exchanging = .cls "Thing"
    rw [htype]
    decide
  have hc' := (checkProgram_relabel exchanging .strict .builtins objectChunk).2 c hc
  exact ⟨by decide, c, hc, htype, hc', htype'⟩

end NominalCheck
