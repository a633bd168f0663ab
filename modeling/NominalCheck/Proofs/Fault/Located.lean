import NominalCheck.Proofs.Context.Reach
import NominalCheck.Proofs.Fault.Rules
import NominalCheck.Proofs.Shape

/-!
# Every fault is that of a single node

A check that fails does so at one node, at whatever depth it stands. For an expression that is clear
from its parts: either one of them fails in the same way, or all of them have types and the node itself
is at fault (`exprFault_of_inferExpr`). For statements the scope matters, too. The one at fault is
checked in a scope that the statements **before** it have led to, and nothing is bound after a fault, so
this is the scope that the failing run leaves: this is `FaultAt`, and `FaultWithin` where the scope does
not matter.

For a whole program, `programFault_of_checkProgram` puts the fault either into the definition of a
variable or into one of the bodies. It rests on `PartFails`, which says so of the failing check and adds
that the bodies **before** that one check.
-/

namespace NominalCheck

open CheckM

variable {cfg : Config} {env : Env} {s s₁ s' : Scope} {err : TypeError}

/-! ### Expressions -/

/-- Arguments fail because one of them does. -/
theorem exists_of_inferArgs_eq_error {args : List (Expr Unit)}
    (h : inferArgs cfg env s args = .error err) : ∃ e ∈ args, inferExpr cfg env s e = .error err :=
  exists_of_mapM_eq_error (inferArgs_eq_mapM args ▸ h)

/-- The fault of a call, seen from the call before its arguments were checked. -/
theorem CallFault.exprFault {e : Expr Unit} {args : List (Expr Ty)}
    (hargs : List.Forall₂ (fun c c' ↦ inferExpr cfg env s c = .ok c') e.children args)
    (h : CallFault cfg e.span args err) : ExprFault cfg env s e err := by
  cases h with
  | signature fault => exact .signature fault
  | @argument param arg harg hfit =>
    obtain ⟨c, hc, hcheck⟩ := exists_mem_of_forall₂ hargs harg
    rw [span_of_inferExpr hcheck]
    exact .argument hc (hasType_of_inferExpr hcheck) hfit

/-- An expression fails because one of its parts does or because it is at fault itself. -/
theorem exprFault_of_inferExpr {e : Expr Unit} (h : inferExpr cfg env s e = .error err) :
    (∃ c ∈ e.children, inferExpr cfg env s c = .error err) ∨ ExprFault cfg env s e err := by
  -- The steps are taken in the order of the check, so that the parts before have their types.
  cases e with
  | literal m v =>
    rw [inferExpr, bind_pure_eq_error_iff, literalType_eq_error_iff] at h
    obtain ⟨text, rfl, rfl⟩ := h
    exact Or.inr .text
  | var m x =>
    rw [inferExpr, bind_pure_eq_error_iff, variableType_eq_error_iff] at h
    obtain ⟨hx, rfl⟩ := h
    exact Or.inr (.name (x := ⟨x, m.span⟩) rfl hx)
  | binary m op l r =>
    rw [inferExpr, bind_eq_error_iff] at h
    obtain hl | ⟨l', hl, h⟩ := h
    · exact Or.inl ⟨l, List.mem_cons_self, hl⟩
    obtain hr | ⟨r', hr, h⟩ := bind_eq_error_iff.1 h
    · exact Or.inl ⟨r, List.mem_cons_of_mem _ List.mem_cons_self, hr⟩
    obtain ⟨hop, rfl⟩ := binaryType_eq_error_iff.1 (bind_pure_eq_error_iff.1 h)
    exact Or.inr (.binary (hasType_of_inferExpr hl) (hasType_of_inferExpr hr) hop)
  | unary m op a =>
    rw [inferExpr, bind_eq_error_iff] at h
    obtain ha | ⟨a', ha, h⟩ := h
    · exact Or.inl ⟨a, List.mem_cons_self, ha⟩
    obtain ⟨hop, rfl⟩ := unaryType_eq_error_iff.1 (bind_pure_eq_error_iff.1 h)
    exact Or.inr (.unary (hasType_of_inferExpr ha) hop)
  | builtinUnary m f a =>
    rw [inferExpr] at h
    split at h
    case isTrue => exact Or.inl ⟨a, List.mem_cons_self, bind_pure_eq_error_iff.1 h⟩
    case isFalse hprint =>
      obtain hfail | ⟨sig, -, h⟩ := bind_eq_error_iff.1 h
      · obtain ⟨hf, rfl⟩ := builtinSignature_eq_error_iff.1 hfail
        exact Or.inr (.name (if_neg hprint) hf)
      obtain ha | ⟨a', ha, h⟩ := bind_eq_error_iff.1 h
      · exact Or.inl ⟨a, List.mem_cons_self, ha⟩
      have hcall := callFault_of_builtinUnaryType (bind_pure_eq_error_iff.1 h)
      exact Or.inr (hcall.exprFault (.cons ha .nil))
  | builtinBinary m f a b =>
    rw [inferExpr, bind_eq_error_iff] at h
    obtain hfail | ⟨sig, -, h⟩ := h
    · obtain ⟨hf, rfl⟩ := builtinSignature_eq_error_iff.1 hfail
      exact Or.inr (.name rfl hf)
    obtain ha | ⟨a', ha, h⟩ := bind_eq_error_iff.1 h
    · exact Or.inl ⟨a, List.mem_cons_self, ha⟩
    obtain hb | ⟨b', hb, h⟩ := bind_eq_error_iff.1 h
    · exact Or.inl ⟨b, List.mem_cons_of_mem _ List.mem_cons_self, hb⟩
    have hcall := callFault_of_builtinBinaryType (bind_pure_eq_error_iff.1 h)
    exact Or.inr (hcall.exprFault (.cons ha (.cons hb .nil)))
  | call m f args =>
    cases hcls : env.classes.get? f.name with
    | some info =>
      simp only [inferExpr, hcls] at h
      obtain hargs | ⟨args', hargs, h⟩ := bind_eq_error_iff.1 h
      · exact Or.inl (exists_of_inferArgs_eq_error hargs)
      have hcall := callFault_of_checkConstruction (bind_pure_eq_error_iff.1 h)
      exact Or.inr (hcall.exprFault (inferArgs_eq_ok_iff.1 hargs))
    | none =>
      simp only [inferExpr, hcls] at h
      obtain hfail | ⟨sig, -, h⟩ := bind_eq_error_iff.1 h
      · obtain ⟨hf, rfl⟩ := calleeSignature_eq_error_iff.1 hfail
        have hnames : f.name ∉ env.functions.keys ++ env.classes.keys := by
          rw [List.mem_append, not_or]
          exact ⟨hf, Table.get?_eq_none_iff.1 hcls⟩
        exact Or.inr (.name rfl hnames)
      obtain hargs | ⟨args', hargs, h⟩ := bind_eq_error_iff.1 h
      · exact Or.inl (exists_of_inferArgs_eq_error hargs)
      have hcall : CallFault cfg m.span args' err :=
        callFault_of_callType (bind_pure_eq_error_iff.1 h)
      exact Or.inr (hcall.exprFault (inferArgs_eq_ok_iff.1 hargs))
  | construct m c args =>
    rw [inferExpr, bind_eq_error_iff] at h
    obtain hfail | ⟨info, -, h⟩ := h
    · obtain ⟨hc, rfl⟩ := constructedClass_eq_error_iff.1 hfail
      exact Or.inr (.name rfl hc)
    obtain hargs | ⟨args', hargs, h⟩ := bind_eq_error_iff.1 h
    · exact Or.inl (exists_of_inferArgs_eq_error hargs)
    have hcall := callFault_of_checkConstruction (bind_pure_eq_error_iff.1 h)
    exact Or.inr (hcall.exprFault (inferArgs_eq_ok_iff.1 hargs))
  | field m o x =>
    rw [inferExpr, bind_eq_error_iff] at h
    obtain ho | ⟨o', ho, h⟩ := h
    · exact Or.inl ⟨o, List.mem_cons_self, ho⟩
    have hmember := memberFault_of_fieldType (bind_pure_eq_error_iff.1 h)
    exact Or.inr (.field (hasType_of_inferExpr ho) hmember)
  | method m o f args =>
    rw [inferExpr, bind_eq_error_iff] at h
    obtain ho | ⟨o', ho, h⟩ := h
    · exact Or.inl ⟨o, List.mem_cons_self, ho⟩
    obtain hf | ⟨⟨c, sig⟩, -, h⟩ := bind_eq_error_iff.1 h
    · exact Or.inr (.method (hasType_of_inferExpr ho) (memberFault_of_methodSignature hf))
    obtain hargs | ⟨args', hargs, h⟩ := bind_eq_error_iff.1 h
    · obtain ⟨a, ha, hfail⟩ := exists_of_inferArgs_eq_error hargs
      exact Or.inl ⟨a, List.mem_cons_of_mem _ ha, hfail⟩
    have hcall : CallFault cfg m.span (o' :: args') err :=
      callFault_of_methodType (bind_pure_eq_error_iff.1 h)
    exact Or.inr (hcall.exprFault (.cons ho (inferArgs_eq_ok_iff.1 hargs)))

/-- **An expression that fails has a node at fault.** -/
theorem exists_exprFault_of_inferExpr {e : Expr Unit} (h : inferExpr cfg env s e = .error err) :
    ∃ n ∈ e.nodes, ExprFault cfg env s n err := by
  induction e using Expr.inductionOnChildren with
  | step e ih =>
    rcases exprFault_of_inferExpr h with ⟨c, hc, hfail⟩ | hfault
    · obtain ⟨n, hn, hfault⟩ := ih c hc hfail
      exact ⟨n, Expr.mem_nodes_iff.2 (Or.inr ⟨c, hc, hn⟩), hfault⟩
    · exact ⟨e, e.self_mem_nodes, hfault⟩

/-! ### Statements -/

/-- A statement is at fault where one of its expressions fails. -/
theorem StmtFault.of_inferExpr {x : Stmt Unit} {e : Expr Unit} (he : e ∈ x.operands)
    (h : inferExpr cfg env s e = .error err) : StmtFault cfg env s x err := by
  obtain ⟨n, hn, hfault⟩ := exists_exprFault_of_inferExpr h
  exact .operand he hn hfault

/-- And where its condition does, as an expression or by its type. -/
theorem StmtFault.of_inferCondition {x : Stmt Unit} {c : Expr Unit} (hc : c ∈ x.operands)
    (h : inferCondition cfg env s c = .error err) : StmtFault cfg env s x err := by
  rcases inferCondition_eq_error_iff.1 h with hfail | ⟨c', hcheck, hbool, rfl⟩
  · exact .of_inferExpr hc hfail
  · rw [span_of_inferExpr hcheck]
    exact .condition hc (hasType_of_inferExpr hcheck) hbool

/-- Assignments among the statements lead from the scope `s` to `s₁`, and there one of the statements is
at fault. -/
structure FaultAt (cfg : Config) (env : Env) (s : Scope) (ys : List (Stmt Unit)) (s₁ : Scope)
    (err : TypeError) : Prop where
  reaches : Reaches cfg env ys s s₁
  fault : ∃ y ∈ ys, StmtFault cfg env s₁ y err

/-- One of the statements is at fault, in a scope to which assignments among them lead from `s`. -/
def FaultWithin (cfg : Config) (env : Env) (s : Scope) (ys : List (Stmt Unit)) (err : TypeError) :
    Prop :=
  ∃ y ∈ ys, ∃ s₁, Reaches cfg env ys s s₁ ∧ StmtFault cfg env s₁ y err

/-- The scope of the fault can be left open. -/
theorem FaultAt.faultWithin {ys : List (Stmt Unit)} (h : FaultAt cfg env s ys s₁ err) :
    FaultWithin cfg env s ys err := by
  obtain ⟨hs, y, hy, hfault⟩ := h
  exact ⟨y, hy, s₁, hs, hfault⟩

/-- A statement that is itself at fault is so in the scope that it starts in. -/
theorem StmtFault.faultAt {x : Stmt Unit} (h : StmtFault cfg env s x err) :
    FaultAt cfg env s x.nodes s err :=
  ⟨.refl, x, Stmt.mem_nodes_iff.2 (Or.inl rfl), h⟩

/-- A fault that is found later on is a fault of the whole, in the scope that was reached by then. -/
theorem FaultAt.of_reaches {ys zs : List (Stmt Unit)} (hs : Reaches cfg env zs s s₁) (hsub : ys ⊆ zs)
    (h : FaultAt cfg env s₁ ys s' err) : FaultAt cfg env s zs s' err := by
  obtain ⟨hs', y, hy, hfault⟩ := h
  exact ⟨hs.trans (hs'.mono hsub), y, hsub hy, hfault⟩

/-- An assignment that fails binds nothing. -/
theorem stmtFault_of_checkAssign {m : Mark Unit} {x : Ident} {e : Expr Unit}
    (h : runIn s (checkAssign cfg env m x e) = (.error err, s')) :
    s' = s ∧ StmtFault cfg env s (.assign m x e) err := by
  rw [checkAssign, runIn_bind, runIn_reading] at h
  cases hx : s.resolve? env x.name with
  | some bound =>
    simp only [hx] at h
    obtain hfail | ⟨e', s₁, hvalue, hrest⟩ := runIn_bind_eq_error_iff.1 h
    · obtain ⟨he, rfl⟩ := runIn_reading_eq_error_iff.1 hfail
      exact ⟨rfl, .of_inferExpr List.mem_cons_self he⟩
    obtain ⟨-, rfl⟩ := runIn_reading_eq_ok_iff.1 hvalue
    obtain hfail | ⟨_, s₂, -, hpure⟩ := runIn_bind_eq_error_iff.1 hrest
    · obtain ⟨hcheck, rfl⟩ := runIn_reading_eq_error_iff.1 hfail
      obtain ⟨hfit, rfl⟩ := checkFits_eq_error_iff.1 hcheck
      exact ⟨rfl, .value hfit⟩
    · exact absurd hpure runIn_pure_ne_error
  | none =>
    simp only [hx] at h
    obtain hfail | ⟨_, s₁, hguard, hrest⟩ := runIn_bind_eq_error_iff.1 h
    · obtain ⟨houtside, rfl⟩ := runIn_reading_eq_error_iff.1 hfail
      obtain ⟨htop, rfl⟩ := ite_error_eq_error_iff.1 houtside
      have hfun : s'.kind ≠ .topLevel := fun hkind ↦ htop (Scope.isTopLevel_iff.2 hkind)
      exact ⟨rfl, .target hfun (Scope.resolve?_eq_none_iff.1 hx)⟩
    obtain ⟨-, rfl⟩ := runIn_reading_eq_ok_iff.1 hguard
    obtain hfail | ⟨e', s₂, -, hbind⟩ := runIn_bind_eq_error_iff.1 hrest
    · obtain ⟨he, rfl⟩ := runIn_reading_eq_error_iff.1 hfail
      exact ⟨rfl, .of_inferExpr List.mem_cons_self he⟩
    · rw [runIn_bind, runIn_bindVar] at hbind
      exact absurd hbind runIn_pure_ne_error

/-- Giving a value back fails outside of functions, in the value, or by its type. -/
theorem stmtFault_of_checkReturn {m : Mark Unit} {e : Option (Expr Unit)}
    (h : checkReturn cfg env m e s = .error err) : StmtFault cfg env s (.ret m e) err := by
  rw [checkReturn] at h
  split at h
  case h_1 htop =>
    cases h
    exact .outside htop
  case h_2 r _ =>
    obtain he | ⟨e', -, h⟩ := bind_eq_error_iff.1 h
    · obtain ⟨a, ha, hfail⟩ := exists_of_optionMapM_eq_error he
      exact .of_inferExpr (Option.mem_toList.2 ha) hfail
    · obtain ⟨hfit, rfl⟩ := checkFits_eq_error_iff.1 (bind_pure_eq_error_iff.1 h)
      exact .value hfit

/-- An assignment to a field fails in the object, at the field, in the value, or by its type. -/
theorem stmtFault_of_checkSetField {m : Mark Unit} {o e : Expr Unit} {x : Ident}
    (h : checkSetField cfg env m o x e s = .error err) :
    StmtFault cfg env s (.setField m o x e) err := by
  rw [checkSetField, bind_eq_error_iff] at h
  obtain ho | ⟨o', ho, h⟩ := h
  · exact .of_inferExpr List.mem_cons_self ho
  obtain hx | ⟨t, -, h⟩ := bind_eq_error_iff.1 h
  · exact .member (hasType_of_inferExpr ho) (memberFault_of_fieldType hx)
  obtain he | ⟨e', -, h⟩ := bind_eq_error_iff.1 h
  · exact .of_inferExpr (List.mem_cons_of_mem _ List.mem_cons_self) he
  · obtain ⟨hfit, rfl⟩ := checkFits_eq_error_iff.1 (bind_pure_eq_error_iff.1 h)
    exact .value hfit

/-- A block fails at its first statement that does; those before it lead to the scope of the fault. -/
theorem faultAt_checkBlock_of_forall_mem {b : List (Stmt Unit)}
    (ih : ∀ x ∈ b, ∀ s s', runIn s (checkStmt cfg env x) = (.error err, s') →
      FaultAt cfg env s x.nodes s' err)
    (h : runIn s (checkBlock cfg env b) = (.error err, s')) :
    FaultAt cfg env s (blockNodes b) s' err := by
  induction b generalizing s with
  | nil =>
    rw [checkBlock] at h
    exact absurd h runIn_pure_ne_error
  | cons x b ihb =>
    rw [checkBlock, runIn_bind_eq_error_iff] at h
    obtain hx | ⟨x', sx, hx, h⟩ := h
    · exact (ih x List.mem_cons_self s s' hx).of_reaches .refl (List.subset_append_left _ _)
    obtain hb | ⟨b', sb, -, h⟩ := runIn_bind_eq_error_iff.1 h
    · have hrest := ihb (fun y hy ↦ ih y (List.mem_cons_of_mem _ hy)) hb
      have hfirst := (checkStmt_reaches hx).mono (List.subset_append_left _ (blockNodes b))
      exact hrest.of_reaches hfirst (List.subset_append_right _ _)
    · exact absurd h runIn_pure_ne_error

/-- **A statement that fails has a statement at fault, itself or in one of its blocks**, and it leaves
the scope in which that one is checked. -/
theorem faultAt_of_checkStmt {x : Stmt Unit}
    (h : runIn s (checkStmt cfg env x) = (.error err, s')) : FaultAt cfg env s x.nodes s' err := by
  induction x generalizing s s' with
  | assign m y e =>
    rw [checkStmt] at h
    obtain ⟨rfl, hfault⟩ := stmtFault_of_checkAssign h
    exact hfault.faultAt
  | destructure m ys e =>
    rw [checkStmt] at h
    cases h
    exact StmtFault.destructuring.faultAt
  | expr m e =>
    rw [checkStmt, runIn_bind_eq_error_iff] at h
    obtain hfail | ⟨e', s₁, -, h⟩ := h
    · obtain ⟨he, rfl⟩ := runIn_reading_eq_error_iff.1 hfail
      exact (StmtFault.of_inferExpr List.mem_cons_self he).faultAt
    · exact absurd h runIn_pure_ne_error
  | ifElse m c a b iha ihb =>
    rw [checkStmt, runIn_bind_eq_error_iff] at h
    obtain hfail | ⟨c', s₁, hs₁, h⟩ := h
    · obtain ⟨hc, rfl⟩ := runIn_reading_eq_error_iff.1 hfail
      exact (StmtFault.of_inferCondition List.mem_cons_self hc).faultAt
    obtain ⟨-, rfl⟩ := runIn_reading_eq_ok_iff.1 hs₁
    obtain ha | ⟨a', sa, ha, h⟩ := runIn_bind_eq_error_iff.1 h
    · have hthen := faultAt_checkBlock_of_forall_mem (fun x hx _ _ ↦ iha x hx) ha
      exact hthen.of_reaches .refl (Stmt.subset_nodes_then m c a b)
    have hthen := (checkBlock_reaches ha).mono (Stmt.subset_nodes_then m c a b)
    obtain hb | ⟨b', sb, hb, h⟩ := runIn_bind_eq_error_iff.1 h
    · have helse := faultAt_checkBlock_of_forall_mem (fun x hx _ _ ↦ ihb x hx) hb
      exact helse.of_reaches hthen (Stmt.subset_nodes_else m c a b)
    have helse := (checkBlock_reaches hb).mono (Stmt.subset_nodes_else m c a b)
    obtain hfail | ⟨t, s₂, -, h⟩ := runIn_bind_eq_error_iff.1 h
    · obtain ⟨ht, rfl⟩ := runIn_reading_eq_error_iff.1 hfail
      obtain ⟨hne, rfl⟩ := choiceType_eq_error_iff.1 ht
      -- The two blocks are compared in the scope that both of them have led to.
      exact (StmtFault.branches hne).faultAt.of_reaches (hthen.trans helse) (List.Subset.refl _)
    · exact absurd h runIn_pure_ne_error
  | ret m e =>
    rw [checkStmt] at h
    obtain ⟨hfail, rfl⟩ := runIn_reading_eq_error_iff.1 h
    exact (stmtFault_of_checkReturn hfail).faultAt
  | loop m c b ih =>
    rw [checkStmt, runIn_bind_eq_error_iff] at h
    obtain hfail | ⟨c', s₁, hs₁, h⟩ := h
    · obtain ⟨hc, rfl⟩ := runIn_reading_eq_error_iff.1 hfail
      exact (StmtFault.of_inferCondition List.mem_cons_self hc).faultAt
    obtain ⟨-, rfl⟩ := runIn_reading_eq_ok_iff.1 hs₁
    obtain hb | ⟨b', sb, -, h⟩ := runIn_bind_eq_error_iff.1 h
    · have hbody := faultAt_checkBlock_of_forall_mem (fun x hx _ _ ↦ ih x hx) hb
      exact hbody.of_reaches .refl (Stmt.subset_nodes_loop m c b)
    · exact absurd h runIn_pure_ne_error
  | pass m =>
    rw [checkStmt] at h
    exact absurd h runIn_pure_ne_error
  | setField m o y e =>
    rw [checkStmt] at h
    obtain ⟨hfail, rfl⟩ := runIn_reading_eq_error_iff.1 h
    exact (stmtFault_of_checkSetField hfail).faultAt

theorem faultAt_of_checkBlock {b : List (Stmt Unit)}
    (h : runIn s (checkBlock cfg env b) = (.error err, s')) :
    FaultAt cfg env s (blockNodes b) s' err :=
  faultAt_checkBlock_of_forall_mem (fun _ _ _ _ ↦ faultAt_of_checkStmt) h

/-! ### Definitions and programs -/

/-- The definition of a variable fails by its literal or by the declared type. -/
theorem varDefFault_of_checkVarDef {v : VarDef Unit} (h : checkVarDef v = .error err) :
    VarDefFault v err := by
  obtain hfail | ⟨t, -, h⟩ := bind_eq_error_iff.1 h
  · obtain ⟨text, hv, rfl⟩ := literalType_eq_error_iff.1 hfail
    exact .text hv
  · obtain ⟨hfit, rfl⟩ := checkFits_eq_error_iff.1 (bind_pure_eq_error_iff.1 h)
    exact .value hfit

theorem exists_varDefFault_of_mapM {vs : List (VarDef Unit)} (h : vs.mapM checkVarDef = .error err) :
    ∃ v ∈ vs, VarDefFault v err := by
  obtain ⟨v, hv, hfail⟩ := exists_of_mapM_eq_error h
  exact ⟨v, hv, varDefFault_of_checkVarDef hfail⟩

theorem checkBody_eq_error_iff {b : List (Stmt Unit)} :
    checkBody cfg env s b = .error err ↔ ∃ s', runIn s (checkBlock cfg env b) = (.error err, s') := by
  rw [checkBody]
  rcases runIn s (checkBlock cfg env b) with ⟨e | b', s₁⟩ <;> simp

/-- A body that fails has a statement at fault. -/
theorem faultWithin_of_checkBody {b : List (Stmt Unit)} (h : checkBody cfg env s b = .error err) :
    FaultWithin cfg env s (blockNodes b) err := by
  obtain ⟨s', hrun⟩ := checkBody_eq_error_iff.1 h
  exact (faultAt_of_checkBlock hrun).faultWithin

/-- The check of a program fails in the definition of a variable, or in one of its bodies after those
before it have checked. -/
inductive PartFails (cfg : Config) (env : Env) (p : Program Unit) (err : TypeError) : Prop
  | varDef {v : VarDef Unit} (hv : v ∈ p.varDefs) (hfail : checkVarDef v = .error err) :
      PartFails cfg env p err
  | body {before after : List (Scope × List (Stmt Unit))} {body : Scope × List (Stmt Unit)}
      (hbodies : p.bodies = before ++ body :: after)
      (hbefore : ∀ b ∈ before, ∃ r, checkBody cfg (env.declare p) b.1 b.2 = .ok r)
      (hfail : checkBody cfg (env.declare p) body.1 body.2 = .error err) : PartFails cfg env p err

/-- A program is at fault in the definition of a variable or in one of its bodies. -/
inductive ProgramFault (cfg : Config) (env : Env) (p : Program Unit) (err : TypeError) : Prop
  | varDef {v : VarDef Unit} (hv : v ∈ p.varDefs) (hfault : VarDefFault v err) :
      ProgramFault cfg env p err
  | body {body : Scope × List (Stmt Unit)} (hbody : body ∈ p.bodies)
      (hfault : FaultWithin cfg (env.declare p) body.1 (blockNodes body.2) err) :
      ProgramFault cfg env p err

variable {p : Program Unit}

/-- Where functions check, so do their bodies. -/
theorem exists_checkBody_of_functions {fs : List (FunDef Unit)}
    (h : ∀ f ∈ fs, ∃ f', checkFunDef cfg env f = .ok f') :
    ∀ b ∈ fs.map fun f ↦ (f.scope, f.body), ∃ r, checkBody cfg env b.1 b.2 = .ok r := by
  rw [List.forall_mem_map]
  intro f hf
  obtain ⟨f', hcheck⟩ := h f hf
  obtain ⟨vars, -, body, s', hbody, -⟩ := checkFunDef_eq_ok_iff.1 hcheck
  exact ⟨(body, s'), checkBody_eq_ok_iff.2 hbody⟩

/-- Where classes check, so do their methods. -/
theorem exists_checkFunDef_of_classes {cs : List (ClassDef Unit)}
    (h : ∀ c ∈ cs, ∃ c', checkClassDef cfg env c = .ok c') :
    ∀ f ∈ cs.flatMap ClassDef.methods, ∃ f', checkFunDef cfg env f = .ok f' := by
  intro f hf
  obtain ⟨c, hc, hf⟩ := List.mem_flatMap.1 hf
  obtain ⟨c', hcheck⟩ := h c hc
  obtain ⟨fields, -, methods, hmethods, -⟩ := checkClassDef_eq_ok_iff.1 hcheck
  exact exists_mapM_eq_ok_iff.1 ⟨methods, hmethods⟩ f hf

/-- A function that fails does so in a local variable or in its body, after the bodies before it. -/
theorem partFails_of_checkFunDef {fs gs : List (FunDef Unit)} {f : FunDef Unit}
    (hfunctions : p.functions = fs ++ f :: gs)
    (hfs : ∀ g ∈ fs, ∃ g', checkFunDef cfg (env.declare p) g = .ok g')
    (h : checkFunDef cfg (env.declare p) f = .error err) : PartFails cfg env p err := by
  obtain hvars | ⟨vars, -, h⟩ := bind_eq_error_iff.1 h
  · obtain ⟨v, hv, hfail⟩ := exists_of_mapM_eq_error hvars
    have hf : f ∈ p.functions := hfunctions ▸ List.mem_append_right _ List.mem_cons_self
    have hmem : v ∈ p.functions.flatMap FunDef.vars := List.mem_flatMap.2 ⟨f, hf, hv⟩
    exact .varDef (List.mem_append_left _ (List.mem_append_right _ hmem)) hfail
  · have hbodies : p.bodies = fs.map (fun f ↦ (f.scope, f.body)) ++
        (f.scope, f.body) :: (gs.map (fun f ↦ (f.scope, f.body)) ++ [(.topLevel, p.stmts)]) := by
      rw [Program.bodies, hfunctions, List.map_append, List.append_assoc]
      rfl
    exact .body hbodies (exists_checkBody_of_functions hfs) (bind_pure_eq_error_iff.1 h)

/-- A class that fails does so in a field or in a method. Its methods come after all functions. -/
theorem partFails_of_checkClassDef {cs ds : List (ClassDef Unit)} {c : ClassDef Unit}
    (hclasses : p.classes = cs ++ c :: ds)
    (hfuns : ∀ f ∈ p.funs, ∃ f', checkFunDef cfg (env.declare p) f = .ok f')
    (hcs : ∀ d ∈ cs, ∃ d', checkClassDef cfg (env.declare p) d = .ok d')
    (h : checkClassDef cfg (env.declare p) c = .error err) : PartFails cfg env p err := by
  obtain hfields | ⟨fields, -, h⟩ := bind_eq_error_iff.1 h
  · obtain ⟨v, hv, hfail⟩ := exists_of_mapM_eq_error hfields
    have hc : c ∈ p.classes := hclasses ▸ List.mem_append_right _ List.mem_cons_self
    have hmem : v ∈ p.classes.flatMap ClassDef.fields := List.mem_flatMap.2 ⟨c, hc, hv⟩
    exact .varDef (List.mem_append_right _ hmem) hfail
  · obtain ⟨fs, f, gs, hmethods, hfs, hfail⟩ :=
      exists_split_of_mapM_eq_error (bind_pure_eq_error_iff.1 h)
    have hfunctions : p.functions =
        (p.funs ++ cs.flatMap ClassDef.methods ++ fs) ++ f :: (gs ++ ds.flatMap ClassDef.methods) := by
      simp [Program.functions, hclasses, hmethods]
    have hmethods := exists_checkFunDef_of_classes hcs
    exact partFails_of_checkFunDef hfunctions
      (List.forall_mem_append.2 ⟨List.forall_mem_append.2 ⟨hfuns, hmethods⟩, hfs⟩) hfail

/-- **A program fails in one of its parts**, variables first, then bodies in their order. -/
theorem partFails_of_checkProgram (h : checkProgram cfg env p = .error err) :
    PartFails cfg env p err := by
  obtain hvars | ⟨vars, -, h⟩ := bind_eq_error_iff.1 h
  · obtain ⟨v, hv, hfail⟩ := exists_of_mapM_eq_error hvars
    exact .varDef (List.mem_append_left _ (List.mem_append_left _ hv)) hfail
  obtain hfuns | ⟨funs, hfuns, h⟩ := bind_eq_error_iff.1 h
  · obtain ⟨fs, f, gs, hsplit, hfs, hfail⟩ := exists_split_of_mapM_eq_error hfuns
    have hfunctions : p.functions = fs ++ f :: (gs ++ p.classes.flatMap ClassDef.methods) := by
      rw [Program.functions, hsplit, List.append_assoc, List.cons_append]
    exact partFails_of_checkFunDef hfunctions hfs hfail
  have hfuns := exists_mapM_eq_ok_iff.1 ⟨funs, hfuns⟩
  obtain hclasses | ⟨classes, hclasses, h⟩ := bind_eq_error_iff.1 h
  · obtain ⟨cs, c, ds, hsplit, hcs, hfail⟩ := exists_split_of_mapM_eq_error hclasses
    exact partFails_of_checkClassDef hsplit hfuns hcs hfail
  · have hmethods := exists_checkFunDef_of_classes (exists_mapM_eq_ok_iff.1 ⟨classes, hclasses⟩)
    have hbefore := exists_checkBody_of_functions (List.forall_mem_append.2 ⟨hfuns, hmethods⟩)
    exact .body rfl hbefore (bind_pure_eq_error_iff.1 h)

/-- **A program that fails is at fault**, in the environment of its own declarations. -/
theorem programFault_of_checkProgram (h : checkProgram cfg env p = .error err) :
    ProgramFault cfg env p err := by
  cases partFails_of_checkProgram h with
  | varDef hv hfail => exact .varDef hv (varDefFault_of_checkVarDef hfail)
  | body hbodies _ hfail =>
    exact .body (hbodies ▸ List.mem_append_right _ List.mem_cons_self) (faultWithin_of_checkBody hfail)

end NominalCheck
