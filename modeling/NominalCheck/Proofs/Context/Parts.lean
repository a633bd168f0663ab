import NominalCheck.Proofs.Context.Covering
import NominalCheck.Proofs.Tree.Statements

/-!
# The parts of a checked tree have been checked

What stands in a checked tree is what the check has made of the expressions that stood in the tree
before, one by one and in the same order. So a fact about the nodes of a checked tree follows from a
fact about a **single** check: `exists_node_of_checkProgram` gives for every node of a checked program
a node of the program that it is the outcome of.

An expression of a statement is checked in the scope that the statements before it have left. By then
nothing that it needs is missing, so it may as well be checked in any context that covers the end of
the run, and this is how the statements below put it. The same goes for the statements in a block: in
the scope that is left at the end, each of them checks again and binds nothing
(`exists_stmt_of_checkBlock`).
-/

namespace NominalCheck

open CheckM

variable {cfg : Config} {env env' : Env} {s s₁ s₂ : Scope}

/-! ### Expressions -/

/-- The children of a checked expression are its children, checked. -/
theorem forall₂_children_of_inferExpr {e : Expr Unit} {e' : Expr Ty}
    (h : inferExpr cfg env s e = .ok e') :
    List.Forall₂ (fun c c' ↦ inferExpr cfg env s c = .ok c') e.children e'.children := by
  cases e with
  | literal m v =>
    obtain ⟨t, -, rfl⟩ := inferExpr_literal_eq_ok_iff.1 h
    exact .nil
  | var m x =>
    obtain ⟨t, -, rfl⟩ := inferExpr_var_eq_ok_iff.1 h
    exact .nil
  | binary m op l r =>
    obtain ⟨l', hl, r', hr, t, -, rfl⟩ := inferExpr_binary_eq_ok_iff.1 h
    exact .cons hl (.cons hr .nil)
  | unary m op e =>
    obtain ⟨a, ha, t, -, rfl⟩ := inferExpr_unary_eq_ok_iff.1 h
    exact .cons ha .nil
  | builtinUnary m f e =>
    obtain ⟨a, ha, t, -, rfl⟩ := inferExpr_builtinUnary_eq_ok_iff.1 h
    exact .cons ha .nil
  | builtinBinary m f a b =>
    obtain ⟨a', ha, b', hb, p, q, t, -, -, rfl⟩ := inferExpr_builtinBinary_eq_ok_iff.1 h
    exact .cons ha (.cons hb .nil)
  | call m f args =>
    cases hcls : env.classes.get? f.name with
    | some info =>
      obtain ⟨args', hargs, -, rfl⟩ := (inferExpr_call_of_mem_eq_ok_iff hcls).1 h
      exact inferArgs_eq_ok_iff.1 hargs
    | none =>
      have hcls' : f.name ∉ env.classes := Table.get?_eq_none_iff.1 hcls
      obtain ⟨args', hargs, t, -, rfl⟩ := (inferExpr_call_of_notMem_eq_ok_iff hcls').1 h
      exact inferArgs_eq_ok_iff.1 hargs
  | construct m c args =>
    obtain ⟨info, -, args', hargs, -, rfl⟩ := inferExpr_construct_eq_ok_iff.1 h
    exact inferArgs_eq_ok_iff.1 hargs
  | field m o x =>
    obtain ⟨o', ho, c, info, t, -, -, -, rfl⟩ := inferExpr_field_eq_ok_iff.1 h
    exact .cons ho .nil
  | method m o f args =>
    obtain ⟨o', ho, args', hargs, c, info, params, t, -, -, -, -, rfl⟩ :=
      inferExpr_method_eq_ok_iff.1 h
    exact .cons ho (inferArgs_eq_ok_iff.1 hargs)

/-- Every node of a checked expression is the outcome of checking a node of the expression. -/
theorem exists_node_of_inferExpr {e : Expr Unit} {e' n' : Expr Ty}
    (h : inferExpr cfg env s e = .ok e') (hn : n' ∈ e'.nodes) :
    ∃ n ∈ e.nodes, inferExpr cfg env s n = .ok n' := by
  induction e using Expr.inductionOnChildren generalizing e' with
  | step e ih =>
    rcases Expr.mem_nodes_iff.1 hn with rfl | ⟨c', hc', hn⟩
    · exact ⟨e, e.self_mem_nodes, h⟩
    · obtain ⟨c, hc, hcheck⟩ := exists_mem_of_forall₂ (forall₂_children_of_inferExpr h) hc'
      obtain ⟨n, hnode, hn'⟩ := ih c hc hcheck hn
      exact ⟨n, Expr.mem_nodes_iff.2 (Or.inr ⟨c, hc, hnode⟩), hn'⟩

/-! ### Statements -/

/-- The expressions of a block are checked in any context that covers its end, if those of its
statements are. -/
theorem forall₂_blockExprs_of_forall_mem {b : List (Stmt Unit)} {b' : List (Stmt Ty)}
    (ih : ∀ x ∈ b, ∀ x' s s₁, Covers env s₁ env' s₂ →
      runIn s (checkStmt cfg env x) = (.ok x', s₁) →
        List.Forall₂ (fun e e' ↦ inferExpr cfg env' s₂ e = .ok e') x.exprs x'.exprs)
    (hcov : Covers env s₁ env' s₂) (h : runIn s (checkBlock cfg env b) = (.ok b', s₁)) :
    List.Forall₂ (fun e e' ↦ inferExpr cfg env' s₂ e = .ok e') (blockExprs b) (blockExprs b') := by
  induction b generalizing s b' with
  | nil =>
    obtain ⟨rfl, -⟩ := checkBlock_nil_eq_ok_iff.1 h
    exact .nil
  | cons x b ihb =>
    obtain ⟨x', sx, hx, xs', hb, rfl⟩ := checkBlock_cons_eq_ok_iff.1 h
    have hcovx : Covers env sx env' s₂ := hcov.of_checkBlock hb
    rw [blockExprs, blockExprs]
    exact List.rel_append (ih x List.mem_cons_self x' s sx hcovx hx)
      (ihb (fun y hy ↦ ih y (List.mem_cons_of_mem _ hy)) hb)

/-- The expressions of a checked statement are its expressions, checked in any context that covers
the end of the run. -/
theorem forall₂_exprs_of_checkStmt {x : Stmt Unit} {x' : Stmt Ty} (hcov : Covers env s₁ env' s₂)
    (h : runIn s (checkStmt cfg env x) = (.ok x', s₁)) :
    List.Forall₂ (fun e e' ↦ inferExpr cfg env' s₂ e = .ok e') x.exprs x'.exprs := by
  induction x generalizing s s₁ x' with
  | assign m y e =>
    obtain ⟨e', he, -, rfl⟩ := checkStmt_assign_eq_ok_iff.1 h
    exact .cons (inferExpr_of_covers (hcov.of_checkStmt h) he) .nil
  | destructure m ys e => exact absurd h checkStmt_destructure_ne_ok
  | expr m e =>
    obtain ⟨e', he, rfl, -⟩ := checkStmt_expr_eq_ok_iff.1 h
    exact .cons (inferExpr_of_covers (hcov.of_checkStmt h) he) .nil
  | ifElse m c a b iha ihb =>
    obtain ⟨c', hc, -, a', sa, ha, b', hb, t, -, -, rfl⟩ := checkStmt_ifElse_eq_ok_iff.1 h
    have hcova : Covers env sa env' s₂ := hcov.of_checkBlock hb
    have ha' := forall₂_blockExprs_of_forall_mem (fun x hx _ _ _ ↦ iha x hx) hcova ha
    have hb' := forall₂_blockExprs_of_forall_mem (fun x hx _ _ _ ↦ ihb x hx) hcov hb
    exact .cons (inferExpr_of_covers (hcov.of_checkStmt h) hc) (List.rel_append ha' hb')
  | ret m e =>
    obtain ⟨r, e', -, he, -, rfl, -⟩ := checkStmt_ret_eq_ok_iff.1 h
    cases he with
    | none => exact .nil
    | some he => exact .cons (inferExpr_of_covers (hcov.of_checkStmt h) he) .nil
  | loop m c b ih =>
    obtain ⟨c', hc, -, b', hb, rfl⟩ := checkStmt_loop_eq_ok_iff.1 h
    have hb' := forall₂_blockExprs_of_forall_mem (fun x hx _ _ _ ↦ ih x hx) hcov hb
    exact .cons (inferExpr_of_covers (hcov.of_checkStmt h) hc) hb'
  | pass m =>
    obtain ⟨rfl, -⟩ := checkStmt_pass_eq_ok_iff.1 h
    exact .nil
  | setField m o y e =>
    obtain ⟨o', ho, e', he, c, info, declared, -, -, -, -, rfl, -⟩ :=
      checkStmt_setField_eq_ok_iff.1 h
    have hstart : Covers env s env' s₂ := hcov.of_checkStmt h
    exact .cons (inferExpr_of_covers hstart ho) (.cons (inferExpr_of_covers hstart he) .nil)

theorem forall₂_exprs_of_checkBlock {b : List (Stmt Unit)} {b' : List (Stmt Ty)}
    (hcov : Covers env s₁ env' s₂) (h : runIn s (checkBlock cfg env b) = (.ok b', s₁)) :
    List.Forall₂ (fun e e' ↦ inferExpr cfg env' s₂ e = .ok e') (blockExprs b) (blockExprs b') :=
  forall₂_blockExprs_of_forall_mem (fun _ _ _ _ _ hx₁ ↦ forall₂_exprs_of_checkStmt hx₁) hcov h

/-! ### Statements in blocks -/

/-- **The statements of a block can be checked apart from one another** once everything they
introduce is known. -/
theorem forall₂_of_checkBlock {b : List (Stmt Unit)} {b' : List (Stmt Ty)}
    (hcov : Covers env s₁ env' s₂) (h : runIn s (checkBlock cfg env b) = (.ok b', s₁)) :
    List.Forall₂ (fun x x' ↦ runIn s₂ (checkStmt cfg env' x) = (.ok x', s₂)) b b' := by
  induction b generalizing s b' with
  | nil =>
    obtain ⟨rfl, -⟩ := checkBlock_nil_eq_ok_iff.1 h
    exact .nil
  | cons x b ihb =>
    obtain ⟨x', sx, hx, xs', hb, rfl⟩ := checkBlock_cons_eq_ok_iff.1 h
    exact .cons (checkStmt_of_covers (hcov.of_checkBlock hb) hx) (ihb hb)

/-- The children of a statement that binds nothing are checked in its scope and bind nothing. -/
theorem forall₂_children_of_checkStmt {x : Stmt Unit} {x' : Stmt Ty}
    (h : runIn s (checkStmt cfg env x) = (.ok x', s)) :
    List.Forall₂ (fun y y' ↦ runIn s (checkStmt cfg env y) = (.ok y', s))
      x.children x'.children := by
  have hcov : Covers env s env s := .refl env s
  cases x with
  | assign m y e =>
    obtain ⟨e', -, -, rfl⟩ := checkStmt_assign_eq_ok_iff.1 h
    exact .nil
  | destructure m ys e => exact absurd h checkStmt_destructure_ne_ok
  | expr m e =>
    obtain ⟨e', -, rfl, -⟩ := checkStmt_expr_eq_ok_iff.1 h
    exact .nil
  | ifElse m c a b =>
    obtain ⟨c', -, -, a', sa, ha, b', hb, t, -, -, rfl⟩ := checkStmt_ifElse_eq_ok_iff.1 h
    exact List.rel_append (forall₂_of_checkBlock (hcov.of_checkBlock hb) ha)
      (forall₂_of_checkBlock hcov hb)
  | ret m e =>
    obtain ⟨r, e', -, -, -, rfl, -⟩ := checkStmt_ret_eq_ok_iff.1 h
    exact .nil
  | loop m c b =>
    obtain ⟨c', -, -, b', hb, rfl⟩ := checkStmt_loop_eq_ok_iff.1 h
    exact forall₂_of_checkBlock hcov hb
  | pass m =>
    obtain ⟨rfl, -⟩ := checkStmt_pass_eq_ok_iff.1 h
    exact .nil
  | setField m o y e =>
    obtain ⟨o', -, e', -, c, info, declared, -, -, -, -, rfl, -⟩ :=
      checkStmt_setField_eq_ok_iff.1 h
    exact .nil

/-- What is known of the children passes to all nodes, since in such a scope no step down changes
anything. -/
theorem forall₂_nodes_of_checkStmt {x : Stmt Unit} {x' : Stmt Ty}
    (h : runIn s (checkStmt cfg env x) = (.ok x', s)) :
    List.Forall₂ (fun y y' ↦ runIn s (checkStmt cfg env y) = (.ok y', s)) x.nodes x'.nodes := by
  induction x using Stmt.inductionOnChildren generalizing x' with
  | step x ih =>
    have hbelow := forall₂_imp_of_mem (forall₂_children_of_checkStmt h) fun y hy _ ↦ ih y hy
    rw [Stmt.nodes_eq_cons, Stmt.nodes_eq_cons]
    exact .cons h (List.rel_flatMap hbelow fun _ _ ↦ id)

/-- The nodes of a checked block are its nodes, checked in the scope that is left at the end. -/
theorem forall₂_nodes_of_checkBlock {b : List (Stmt Unit)} {b' : List (Stmt Ty)}
    (h : runIn s (checkBlock cfg env b) = (.ok b', s₁)) :
    List.Forall₂ (fun y y' ↦ runIn s₁ (checkStmt cfg env y) = (.ok y', s₁))
      (blockNodes b) (blockNodes b') := by
  rw [blockNodes_eq_flatMap, blockNodes_eq_flatMap]
  exact List.rel_flatMap (forall₂_of_checkBlock (.refl env s₁) h) fun _ _ ↦ forall₂_nodes_of_checkStmt

/-- **Every statement in a checked block is the outcome of a check in the scope that is left.** -/
theorem exists_stmt_of_checkBlock {b : List (Stmt Unit)} {b' : List (Stmt Ty)}
    (h : runIn s (checkBlock cfg env b) = (.ok b', s₁)) {y' : Stmt Ty} (hy : y' ∈ blockNodes b') :
    ∃ y ∈ blockNodes b, runIn s₁ (checkStmt cfg env y) = (.ok y', s₁) :=
  exists_mem_of_forall₂ (forall₂_nodes_of_checkBlock h) hy

/-! ### Definitions and programs -/

/-- The expressions of a function are checked in the scope of its parameters and local variables. -/
theorem forall₂_exprs_of_checkFunDef {f : FunDef Unit} {f' : FunDef Ty}
    (h : checkFunDef cfg env f = .ok f') :
    List.Forall₂ (fun e e' ↦ inferExpr cfg env f.scope e = .ok e') f.exprs f'.exprs := by
  obtain ⟨vars, -, body, s', hbody, rfl⟩ := checkFunDef_eq_ok_iff.1 h
  obtain rfl : s' = f.scope := (checkBlock_grows f.body).eq_of_function rfl hbody
  exact forall₂_exprs_of_checkBlock (.refl env f.scope) hbody

/-- Checked in some scope, the first expression comes out as the second. -/
def ChecksTo (cfg : Config) (env : Env) (e : Expr Unit) (e' : Expr Ty) : Prop :=
  ∃ s, inferExpr cfg env s e = .ok e'

theorem forall₂_checksTo_of_mapM_checkFunDef {fs : List (FunDef Unit)} {fs' : List (FunDef Ty)}
    (h : fs.mapM (checkFunDef cfg env) = .ok fs') :
    List.Forall₂ (ChecksTo cfg env) (fs.flatMap FunDef.exprs) (fs'.flatMap FunDef.exprs) :=
  List.rel_flatMap (mapM_eq_ok_iff.1 h) fun f _ hf ↦
    (forall₂_exprs_of_checkFunDef hf).imp fun _ _ he ↦ ⟨f.scope, he⟩

/-- Each expression of a checked program is the outcome of the check of the expression in its place. -/
theorem forall₂_checksTo_of_checkProgram {p : Program Unit} {c : Checked}
    (h : checkProgram cfg env p = .ok c) :
    List.Forall₂ (ChecksTo cfg (env.declare p)) p.exprs c.program.exprs := by
  obtain ⟨vars, -, funs, hfuns, classes, hclasses, stmts, s, hstmts, rfl⟩ :=
    checkProgram_eq_ok_iff.1 h
  have hclasses' : List.Forall₂ (ChecksTo cfg (env.declare p)) (p.classes.flatMap ClassDef.exprs)
      (classes.flatMap ClassDef.exprs) := by
    refine List.rel_flatMap (mapM_eq_ok_iff.1 hclasses) fun cls cls' hcls ↦ ?_
    obtain ⟨fields, -, methods, hmethods, rfl⟩ := checkClassDef_eq_ok_iff.1 hcls
    exact forall₂_checksTo_of_mapM_checkFunDef hmethods
  have hstmts' : List.Forall₂ (ChecksTo cfg (env.declare p)) (blockExprs p.stmts)
      (blockExprs stmts) :=
    (forall₂_exprs_of_checkBlock (.refl _ s) hstmts).imp fun _ _ he ↦ ⟨s, he⟩
  exact List.rel_append (List.rel_append (forall₂_checksTo_of_mapM_checkFunDef hfuns) hclasses')
    hstmts'

/-- **Every node of a checked program is the outcome of a check of one of its nodes.** -/
theorem exists_node_of_checkProgram {p : Program Unit} {c : Checked}
    (h : checkProgram cfg env p = .ok c) {n' : Expr Ty} (hn : n' ∈ c.program.nodes) :
    ∃ n ∈ p.nodes, ChecksTo cfg (env.declare p) n n' := by
  obtain ⟨e', he', hn⟩ := List.mem_flatMap.1 hn
  obtain ⟨e, he, s, hcheck⟩ := exists_mem_of_forall₂ (forall₂_checksTo_of_checkProgram h) he'
  obtain ⟨n, hnode, hn'⟩ := exists_node_of_inferExpr hcheck hn
  exact ⟨n, List.mem_flatMap.2 ⟨e, he, hnode⟩, s, hn'⟩

end NominalCheck
