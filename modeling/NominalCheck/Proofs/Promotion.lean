import NominalCheck.Proofs.Shape

/-!
# The environment that a program leaves

A program leaves the functions and classes that it has declared, and the declared globals followed by
the names that its statements introduce. The statements run in a scope, in which bindings are made deep
inside choices and loops, and the scope is promoted at the end. Seen from the globals, that is much
simpler: a run writes the bindings of **all** assignments in it, one after the other, each only if the
name is not there yet (`globals_promote_of_checkBlock`).

So it does not matter how deep an assignment stands, how often a name is assigned to again, or that the
promotion could overwrite globals: `Table.entries_insertNew` says what is left.
-/

namespace NominalCheck

open CheckM

variable {cfg : Config} {env : Env} {s s' : Scope}

/-! ### Statements -/

/-- One assignment adds its target, unless that is there already. -/
theorem AssignTyped.globals_promote {x : String} {t : Ty} (h : AssignTyped env s x t s') :
    (env.promote s').globals = (env.promote s).globals.insertNew [(x, t)] := by
  rw [Table.insertNew_cons, Table.insertNew_nil]
  obtain ⟨bound, hx, -, rfl⟩ | ⟨hx, -, rfl⟩ := h
  · have hmem : x ∈ (env.promote s').globals := by
      rw [← Table.isSome_get?_iff, Env.get?_globals_promote, hx]
      rfl
    rw [if_pos hmem]
  · have hnotMem : x ∉ (env.promote s).globals := by
      rw [← Table.get?_eq_none_iff, Env.get?_globals_promote, hx]
    rw [if_neg hnotMem]
    exact Table.insertMany_entries_insert env.globals s.vars x t

/-- Each statement of a block adds its own assignments behind those of the statements before it. -/
theorem globals_promote_of_forall_mem {b : List (Stmt Unit)} {b' : List (Stmt Ty)}
    (ih : ∀ x ∈ b, ∀ x' s s', runIn s (checkStmt cfg env x) = (.ok x', s') →
      (env.promote s').globals = (env.promote s).globals.insertNew x'.bindings)
    (h : runIn s (checkBlock cfg env b) = (.ok b', s')) :
    (env.promote s').globals = (env.promote s).globals.insertNew (blockBindings b') := by
  induction b generalizing s b' with
  | nil =>
    obtain ⟨rfl, rfl⟩ := checkBlock_nil_eq_ok_iff.1 h
    rfl
  | cons x b ihb =>
    obtain ⟨x', sx, hx, xs', hb, rfl⟩ := checkBlock_cons_eq_ok_iff.1 h
    rw [blockBindings_cons, Table.insertNew_append, ← ih x List.mem_cons_self x' s sx hx]
    exact ihb (fun y hy ↦ ih y (List.mem_cons_of_mem _ hy)) hb

/-- **A statement adds the targets of its assignments, as far as they are new.** -/
theorem globals_promote_of_checkStmt {x : Stmt Unit} {x' : Stmt Ty}
    (h : runIn s (checkStmt cfg env x) = (.ok x', s')) :
    (env.promote s').globals = (env.promote s).globals.insertNew x'.bindings := by
  induction x generalizing s s' x' with
  | assign m y e =>
    obtain ⟨e', -, hassign, rfl⟩ := checkStmt_assign_eq_ok_iff.1 h
    exact hassign.globals_promote
  | destructure m ys e => exact absurd h checkStmt_destructure_ne_ok
  | expr m e =>
    obtain ⟨e', -, rfl, rfl⟩ := checkStmt_expr_eq_ok_iff.1 h
    rfl
  | ifElse m c a b iha ihb =>
    obtain ⟨c', -, -, a', sa, ha, b', hb, t, -, -, rfl⟩ := checkStmt_ifElse_eq_ok_iff.1 h
    rw [Stmt.bindings_ifElse, Table.insertNew_append,
      ← globals_promote_of_forall_mem (fun x hx _ _ _ ↦ iha x hx) ha]
    exact globals_promote_of_forall_mem (fun x hx _ _ _ ↦ ihb x hx) hb
  | ret m e =>
    obtain ⟨r, e', -, -, -, rfl, rfl⟩ := checkStmt_ret_eq_ok_iff.1 h
    rfl
  | loop m c b ih =>
    obtain ⟨c', -, -, b', hb, rfl⟩ := checkStmt_loop_eq_ok_iff.1 h
    exact globals_promote_of_forall_mem (fun x hx _ _ _ ↦ ih x hx) hb
  | pass m =>
    obtain ⟨rfl, rfl⟩ := checkStmt_pass_eq_ok_iff.1 h
    rfl
  | setField m o y e =>
    obtain ⟨o', -, e', -, c, info, declared, -, -, -, -, rfl, rfl⟩ :=
      checkStmt_setField_eq_ok_iff.1 h
    rfl

theorem globals_promote_of_checkBlock {b : List (Stmt Unit)} {b' : List (Stmt Ty)}
    (h : runIn s (checkBlock cfg env b) = (.ok b', s')) :
    (env.promote s').globals = (env.promote s).globals.insertNew (blockBindings b') :=
  globals_promote_of_forall_mem (fun _ _ _ _ _ ↦ globals_promote_of_checkStmt) h

/-- A check changes neither the targets of assignments nor their order. -/
theorem blockTargets_of_checkBlock {b : List (Stmt Unit)} {b' : List (Stmt Ty)}
    (h : runIn s (checkBlock cfg env b) = (.ok b', s')) : blockTargets b' = blockTargets b := by
  have htarget : ∀ {y : Stmt Unit} {y' : Stmt Ty},
      runIn s' (checkStmt cfg env y) = (.ok y', s') →
        y'.binding?.map Prod.fst = y.binding?.map Prod.fst := by
    intro y y' hy
    calc y'.binding?.map Prod.fst
      _ = y'.erase.binding?.map Prod.fst := by cases y' <;> rfl
      _ = (y.resolveCalls env).binding?.map Prod.fst := by rw [erase_of_checkStmt hy]
      _ = y.binding?.map Prod.fst := by cases y <;> rfl
  rw [blockTargets, blockTargets, blockBindings, blockBindings, List.map_filterMap,
    List.map_filterMap]
  exact filterMap_eq_of_forall₂ htarget (forall₂_nodes_of_checkBlock h)

/-! ### Programs -/

/-- **The environment that a program leaves.** Its functions and classes are the declared ones. Its
globals are the declared ones, as they were, and behind them the names that are assigned to somewhere
in the statements at top level and are not declared, each once, in the order of their first
assignments, with the type of the value that is assigned first. -/
theorem checkProgram_env_exact {cfg : Config} {env : Env} {p : Program Unit} {c : Checked}
    (h : checkProgram cfg env p = .ok c) :
    c.env.functions = (env.declare p).functions ∧ c.env.classes = (env.declare p).classes ∧
      ∃ fresh, c.env.globals.entries = (env.declare p).globals.entries ++ fresh ∧
        fresh.map Prod.fst =
          ((blockTargets p.stmts).filter (· ∉ (env.declare p).globals)).eraseDups ∧
        ∀ b ∈ fresh, (blockBindings c.program.stmts).lookup b.1 = some b.2 := by
  obtain ⟨vars, -, funs, -, classes, -, stmts, s, hstmts, rfl⟩ := checkProgram_eq_ok_iff.1 h
  have hglobals : ((env.declare p).promote s).globals =
      (env.declare p).globals.insertNew (blockBindings stmts) :=
    globals_promote_of_checkBlock hstmts
  refine ⟨rfl, rfl, ?_⟩
  show ∃ fresh, ((env.declare p).promote s).globals.entries = _ ++ fresh ∧ _
  rw [hglobals, ← blockTargets_of_checkBlock hstmts]
  exact Table.entries_insertNew _ _

/-- A chunk that assigns to a declared global, to two new names inside a choice inside a loop, and once
more to one of them after the loop. Its function assigns to a local variable. -/
def nestedChunk : Program Unit :=
  let m : Mark Unit := ⟨⟨0, 1⟩, ()⟩
  let ident (name : String) : Ident := ⟨name, m.span⟩
  let var (name : String) : VarDef Unit := ⟨⟨ident name, .int, m.span⟩, .int 0, m.span, m⟩
  let set (name : String) (value : Literal) : Stmt Unit :=
    .assign m (ident name) (.literal m value)
  { vars := [var "g"]
    funs := [⟨ident "f", [], .none, [var "h"], [set "h" (.int 1)], m⟩]
    classes := [⟨ident "A", [], [], m⟩]
    stmts := [.loop m (.literal m (.bool true))
        [.ifElse m (.literal m (.bool false))
          [set "b" (.bool true)]
          [.assign m (ident "a") (.call m (ident "A") []), set "b" (.bool false)],
          set "g" (.int 2)],
      set "a" .none]
    span := m.span }

/-- The chunk leaves `b` before `a`, in the order of their first assignments and not of their last,
and `g` in its place although it is assigned to. -/
theorem checkProgram_env_exact_nestedChunk :
    ∃ c, checkProgram .strict .builtins nestedChunk = .ok c ∧
      c.env.globals.entries = [("g", .int), ("b", .bool), ("a", .cls "A")] ∧
      blockTargets nestedChunk.stmts = ["b", "a", "b", "g", "a"] ∧
      ∃ fresh, c.env.globals.entries = (Env.builtins.declare nestedChunk).globals.entries ++ fresh ∧
        fresh.map Prod.fst = ((blockTargets nestedChunk.stmts).filter
          (· ∉ (Env.builtins.declare nestedChunk).globals)).eraseDups ∧
        ∀ b ∈ fresh, (blockBindings c.program.stmts).lookup b.1 = some b.2 := by
  have hcheck : ∃ c, checkProgram .strict .builtins nestedChunk = .ok c ∧
      c.env.globals.entries = [("g", .int), ("b", .bool), ("a", .cls "A")] := ⟨_, rfl, rfl⟩
  obtain ⟨c, hc, hentries⟩ := hcheck
  exact ⟨c, hc, hentries, rfl, (checkProgram_env_exact hc).2.2⟩

end NominalCheck
