import NominalCheck.Proofs.Shape

/-!
# One type per variable

In a checked program a variable has one type wherever it stands. At top level that is the type of the
global that the program leaves; in the body of a function or method it is the type of the last local
variable of that name, else of the last parameter, else of the declared global. Each variable is
annotated with it, and each value assigned to the variable fits it.

Annotations are made while the scope still grows. What makes them right at the end is that every part
of a run has the same outcome in the scope that is left (`exists_stmt_of_checkBlock`), so a block
respects the lookups of **that** scope (`respects_of_checkBlock`). What is left to say is what these
lookups are.
-/

namespace NominalCheck

open CheckM

variable {cfg : Config} {env : Env} {s s' : Scope}

/-- Every variable in the block is annotated with the type that it has according to `typeOf?`, and
every value that is assigned to a variable fits that type. -/
structure RespectsTypes (typeOf? : String → Option Ty) (b : List (Stmt Ty)) : Prop where
  var : ∀ m x, Expr.var m x ∈ blockExprNodes b → typeOf? x = some m.ann
  assign : ∀ m x e, Stmt.assign m x e ∈ blockNodes b →
    ∃ t, typeOf? x.name = some t ∧ t.Accepts e.ann

/-! ### Blocks -/

/-- A checked variable is annotated with what it resolves to. -/
theorem resolve?_of_inferExpr_var {e : Expr Unit} {m : Mark Ty} {x : String}
    (h : inferExpr cfg env s e = .ok (.var m x)) : s.resolve? env x = some m.ann := by
  have hshape : (Expr.var m x).erase = e.resolveCalls env := erase_of_inferExpr h
  cases e with
  | var m' y =>
    obtain ⟨t, hy, heq⟩ := inferExpr_var_eq_ok_iff.1 h
    cases heq
    exact hy
  | call m' f args =>
    by_cases hf : f.name ∈ env.classes <;> simp [Expr.erase, Expr.resolveCalls, hf] at hshape
  | _ => simp [Expr.erase, Expr.resolveCalls] at hshape

/-- An assignment that binds nothing assigns to a known variable, whose type the value fits. -/
theorem exists_accepts_of_checkStmt_assign {y : Stmt Unit} {m : Mark Ty} {x : Ident} {e : Expr Ty}
    (h : runIn s (checkStmt cfg env y) = (.ok (.assign m x e), s)) :
    ∃ t, s.resolve? env x.name = some t ∧ t.Accepts e.ann := by
  have hshape : (Stmt.assign m x e).erase = y.resolveCalls env := erase_of_checkStmt h
  cases y with
  | assign m' z e' =>
    obtain ⟨e'', -, hassign, heq⟩ := checkStmt_assign_eq_ok_iff.1 h
    cases heq
    obtain ⟨t, hx, hfit, -⟩ | ⟨hx, -, hbind⟩ := hassign
    · exact ⟨t, hx, hfit⟩
    · have hbound : (s.bind x.name e.ann).resolve? env x.name = some e.ann := by
        rw [Scope.resolve?_bind, if_pos rfl]
      rw [← hbind, hx] at hbound
      cases hbound
  | _ => simp [Stmt.erase, Stmt.resolveCalls] at hshape

/-- **A checked block respects the types in the scope that it leaves.** -/
theorem respects_of_checkBlock {b : List (Stmt Unit)} {b' : List (Stmt Ty)}
    (h : runIn s (checkBlock cfg env b) = (.ok b', s')) : RespectsTypes (s'.resolve? env) b' where
  var m x hx := by
    obtain ⟨e', he', hx⟩ := List.mem_flatMap.1 hx
    obtain ⟨e, -, he⟩ := exists_mem_of_forall₂ (forall₂_exprs_of_checkBlock (.refl env s') h) he'
    obtain ⟨n, -, hn⟩ := exists_node_of_inferExpr he hx
    exact resolve?_of_inferExpr_var hn
  assign m x e hx := by
    obtain ⟨y, -, hy⟩ := exists_stmt_of_checkBlock h hx
    exact exists_accepts_of_checkStmt_assign hy

/-! ### Functions -/

/-- The type of a variable in the body of a function: that of the last local variable of the name,
else of the last parameter, else of the global. -/
def FunDef.typeOf? {α : Type} (f : FunDef α) (env : Env) (x : String) : Option Ty :=
  ((f.vars.map VarDef.binding).reverse.lookup x).or
    (((f.params.map Binder.binding).reverse.lookup x).or (env.globals.get? x))

/-- In the scope of a function, a local variable comes before a parameter, and both come before the
globals. -/
theorem FunDef.resolve?_scope {α : Type} (f : FunDef α) (env : Env) (x : String) :
    f.scope.resolve? env x = f.typeOf? env x := by
  have hglobal : (Scope.function f.result).resolve? env x = env.globals.get? x := rfl
  rw [FunDef.scope, Scope.resolve?_bindMany, hglobal, List.reverse_append, List.lookup_append,
    Option.or_assoc, FunDef.typeOf?]

/-- Checking keeps the declared types of local variables. -/
theorem map_binding_of_mapM_checkVarDef {vs : List (VarDef Unit)} {vs' : List (VarDef Ty)}
    (h : vs.mapM checkVarDef = .ok vs') : vs'.map VarDef.binding = vs.map VarDef.binding := by
  refine map_eq_map_of_mapM (fun {v v'} hv ↦ ?_) h
  obtain ⟨t, -, -, rfl⟩ := checkVarDef_eq_ok_iff.1 hv
  rfl

/-- The body of a function respects the types of its own variables. Nothing is introduced there, so
the scope at its end is the one at its start. -/
theorem respects_of_checkFunDef {f : FunDef Unit} {f' : FunDef Ty}
    (h : checkFunDef cfg env f = .ok f') : RespectsTypes (f'.typeOf? env) f'.body := by
  obtain ⟨vars, hvars, body, s', hbody, rfl⟩ := checkFunDef_eq_ok_iff.1 h
  obtain rfl : s' = f.scope := (checkBlock_grows f.body).eq_of_function rfl hbody
  have htypes : f.scope.resolve? env = FunDef.typeOf?
      ⟨f.name, f.params, f.result, vars, body, f.mark.annotate f.result⟩ env := by
    funext x
    rw [f.resolve?_scope, FunDef.typeOf?, FunDef.typeOf?, map_binding_of_mapM_checkVarDef hvars]
  exact htypes ▸ respects_of_checkBlock hbody

/-- Every function and method of a checked program is the outcome of the check of one. -/
theorem exists_checkFunDef_of_mem_functions {p : Program Unit} {c : Checked}
    (h : checkProgram cfg env p = .ok c) {f' : FunDef Ty} (hf : f' ∈ c.program.functions) :
    ∃ f ∈ p.functions, checkFunDef cfg (env.declare p) f = .ok f' := by
  obtain ⟨vars, -, funs, hfuns, classes, hclasses, stmts, s, -, rfl⟩ := checkProgram_eq_ok_iff.1 h
  have hmethods : List.Forall₂ (fun f f' ↦ checkFunDef cfg (env.declare p) f = .ok f')
      (p.classes.flatMap ClassDef.methods) (classes.flatMap ClassDef.methods) := by
    refine List.rel_flatMap (mapM_eq_ok_iff.1 hclasses) fun cls cls' hcls ↦ ?_
    obtain ⟨fields, -, methods, hmethods, rfl⟩ := checkClassDef_eq_ok_iff.1 hcls
    exact mapM_eq_ok_iff.1 hmethods
  exact exists_mem_of_forall₂ (List.rel_append (mapM_eq_ok_iff.1 hfuns) hmethods) hf

/-! ### Programs -/

/-- **One type per variable.** At top level, every variable is annotated with the type of the global
that the program leaves, and every value assigned to it fits that type. In a function or method the
same holds of the type that the local variables, the parameters and the declared globals give. -/
theorem checkProgram_one_type_per_variable {cfg : Config} {env : Env} {p : Program Unit}
    {c : Checked} (h : checkProgram cfg env p = .ok c) :
    RespectsTypes c.env.globals.get? c.program.stmts ∧
      ∀ f ∈ c.program.functions, RespectsTypes (f.typeOf? (env.declare p)) f.body := by
  constructor
  · obtain ⟨vars, -, funs, -, classes, -, stmts, s, hstmts, rfl⟩ := checkProgram_eq_ok_iff.1 h
    have htypes : s.resolve? (env.declare p) = ((env.declare p).promote s).globals.get? :=
      funext fun x ↦ (Env.get?_globals_promote (env.declare p) s x).symm
    exact htypes ▸ respects_of_checkBlock hstmts
  · intro f' hf'
    obtain ⟨f, -, hf⟩ := exists_checkFunDef_of_mem_functions h hf'
    exact respects_of_checkFunDef hf

/-- A chunk whose function has two parameters `x` and a local variable `y` over a global `y`, and
assigns to both. The statements at top level assign to the global. -/
def shadowingChunk : Program Unit :=
  let m : Mark Unit := ⟨⟨0, 1⟩, ()⟩
  let ident (name : String) : Ident := ⟨name, m.span⟩
  let set (name : String) (value : Literal) : Stmt Unit :=
    .assign m (ident name) (.literal m value)
  { vars := [⟨⟨ident "y", .int, m.span⟩, .int 0, m.span, m⟩]
    funs := [⟨ident "f", [⟨ident "x", .int, m.span⟩, ⟨ident "x", .bool, m.span⟩], .bool,
      [⟨⟨ident "y", .cls "A", m.span⟩, .none, m.span, m⟩],
      [set "x" (.bool false), set "y" .none,
        .ret m (some (.binary m .is (.var m "y") (.literal m .none)))], m⟩]
    classes := [⟨ident "A", [], [], m⟩]
    stmts := [set "y" (.int 1),
      .assign m (ident "z") (.call m (ident "f") [.var m "y", .literal m (.bool true)])]
    span := m.span }

/-- The function respects the types of its second parameter `x` and of its local `y`, the statements
that of the global `y`. -/
theorem checkProgram_one_type_per_variable_shadowingChunk :
    ∃ c, checkProgram .strict .builtins shadowingChunk = .ok c ∧
      c.program.functions.length = 1 ∧ c.env.globals.entries = [("y", .int), ("z", .bool)] ∧
      RespectsTypes c.env.globals.get? c.program.stmts ∧
        ∀ f ∈ c.program.functions,
          RespectsTypes (f.typeOf? (Env.builtins.declare shadowingChunk)) f.body := by
  have hcheck : ∃ c, checkProgram .strict .builtins shadowingChunk = .ok c ∧
      c.program.functions.length = 1 ∧ c.env.globals.entries = [("y", .int), ("z", .bool)] :=
    ⟨_, rfl, rfl, rfl⟩
  obtain ⟨c, hc, hlength, hentries⟩ := hcheck
  exact ⟨c, hc, hlength, hentries, checkProgram_one_type_per_variable hc⟩

end NominalCheck
