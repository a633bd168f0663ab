import NominalCheck.Proofs.Fault.Located
import NominalCheck.Proofs.Tree.Items

/-!
# The first item at fault

A program is checked item by item. Declarations only read the environment, and each statement is checked
in the scope that the statements before it leave. The check of a program is that of its items in a row
(`checkProgram_eq_error_iff`), so its fault is that of the **first** item that fails, and what comes
after that item does not matter as long as it declares nothing.

The fault lies at a place in the item. `ExprFault` and `StmtFault` say where each fault is placed; these
are places of the node at fault, of one of its parts or of the identifier that it is written with.
-/

namespace NominalCheck

open CheckM

variable {cfg : Config} {env : Env} {s s' : Scope} {err : TypeError}

/-! ### Checking item by item -/

/-- Checks one item on its own. A declaration is checked without regard to the scope. -/
def Item.check (cfg : Config) (env : Env) : Item Unit → CheckM Unit
  | .varDef v => discard (reading fun _ ↦ checkVarDef v)
  | .funDef f => discard (reading fun _ ↦ checkFunDef cfg env f)
  | .classDef c => discard (reading fun _ ↦ checkClassDef cfg env c)
  | .stmt x => discard (checkStmt cfg env x)

/-- Checks that only read can be made in a row by a single reading. -/
theorem forM_discard_reading {α β : Type} (f : α → Except TypeError β) (as : List α) :
    forM as (fun a ↦ discard (reading fun _ ↦ f a)) = discard (reading fun _ ↦ as.mapM f) := by
  induction as with
  | nil => rfl
  | cons a as ih =>
    rw [List.forM_cons, ih, List.mapM_cons]
    simp only [discard_eq_bind, reading_bind, bind_assoc, pure_bind]
    rfl

/-- Statements as items are checked like the block that they form. -/
theorem forM_discard_checkStmt (b : List (Stmt Unit)) :
    forM b (fun x ↦ discard (checkStmt cfg env x)) = discard (checkBlock cfg env b) := by
  induction b with
  | nil =>
    rw [checkBlock]
    rfl
  | cons x b ih =>
    rw [List.forM_cons, ih, checkBlock]
    simp only [discard_eq_bind, bind_assoc, pure_bind]

variable {p : Program Unit}

/-- The items in a row are the declarations of each kind in a row and then the block of statements. -/
theorem forM_items (p : Program Unit) :
    forM p.items (Item.check cfg env) = (do
      discard (reading fun _ ↦ p.vars.mapM checkVarDef)
      discard (reading fun _ ↦ p.funs.mapM (checkFunDef cfg env))
      discard (reading fun _ ↦ p.classes.mapM (checkClassDef cfg env))
      discard (checkBlock cfg env p.stmts)) := by
  rw [Program.items, Program.declarations]
  simp only [List.forM_append, List.forM_map, Item.check, forM_discard_reading,
    forM_discard_checkStmt, bind_assoc]

/-- **The check of a program is that of its items**, one after the other from the top-level scope. -/
theorem fst_runIn_items (cfg : Config) (env : Env) (p : Program Unit) :
    (runIn .topLevel (forM p.items (Item.check cfg (env.declare p)))).1 =
      (checkProgram cfg env p).map fun _ ↦ () := by
  rw [forM_items, checkProgram]
  cases p.vars.mapM checkVarDef with
  | error e => rfl
  | ok vars =>
    cases p.funs.mapM (checkFunDef cfg (env.declare p)) with
    | error e => rfl
    | ok funs =>
      cases p.classes.mapM (checkClassDef cfg (env.declare p)) with
      | error e => rfl
      | ok classes =>
        change (runIn .topLevel (discard (checkBlock cfg (env.declare p) p.stmts))).1 = _
        simp only [checkBody, ok_bind]
        rcases hrun : runIn .topLevel (checkBlock cfg (env.declare p) p.stmts) with ⟨e | stmts, s⟩
        · rw [runIn_discard_eq_error_iff.2 hrun]
          rfl
        · rw [runIn_discard_eq_ok_iff.2 ⟨stmts, hrun⟩]
          rfl

/-- **A program fails exactly as its items do**, run one after the other. -/
theorem checkProgram_eq_error_iff :
    checkProgram cfg env p = .error err ↔
      ∃ s, runIn .topLevel (forM p.items (Item.check cfg (env.declare p))) = (.error err, s) := by
  have hfst := fst_runIn_items cfg env p
  rcases hrun : runIn .topLevel (forM p.items (Item.check cfg (env.declare p))) with ⟨r, s⟩
  rw [hrun] at hfst
  subst hfst
  cases checkProgram cfg env p <;> simp [Except.map]

/-! ### Places of faults -/

/-- The fault of a member is placed where the member is used. -/
theorem MemberFault.span_eq {object : Ty} {member : String} {span : Span}
    (h : MemberFault env object member span err) : err.span = span := by
  cases h <;> rfl

/-- The fault of a node lies at a place in the block that the node stands in. -/
theorem ExprFault.span_mem {b : List (Stmt Unit)} {n : Expr Unit} (hn : n ∈ blockExprNodes b)
    (h : ExprFault cfg env s n err) : err.span ∈ blockSpans b := by
  cases h with
  | text | binary | unary | signature => exact span_mem_blockSpans_of_expr hn
  | name hlookup _ =>
    have hident := mem_blockIdents_of_ident? hn (Expr.ident?_of_lookup? hlookup)
    exact span_mem_blockSpans_of_ident hident
  | argument harg => exact span_mem_blockSpans_of_expr (mem_blockExprNodes_of_mem_children hn harg)
  | field _ hmember | method _ hmember =>
    rw [hmember.span_eq]
    exact span_mem_blockSpans_of_expr hn

/-- The fault of a statement is placed at the statement, at one of its expressions or at an
identifier. -/
theorem StmtFault.span_mem {b : List (Stmt Unit)} {y : Stmt Unit} (hy : y ∈ blockNodes b)
    (h : StmtFault cfg env s y err) : err.span ∈ blockSpans b := by
  cases h with
  | operand he hn hfault => exact hfault.span_mem (mem_blockExprNodes hy he hn)
  | target =>
    exact span_mem_blockSpans_of_ident (mem_blockIdents_of_mem_targets hy List.mem_cons_self)
  | condition hc =>
    exact span_mem_blockSpans_of_expr (mem_blockExprNodes hy hc (Expr.self_mem_nodes _))
  | member _ hmember =>
    rw [hmember.span_eq]
    exact span_mem_blockSpans_of_stmt hy
  | destructuring | value | branches | outside => exact span_mem_blockSpans_of_stmt hy

theorem FaultWithin.span_mem {b : List (Stmt Unit)}
    (h : FaultWithin cfg env s (blockNodes b) err) : err.span ∈ blockSpans b := by
  obtain ⟨y, hy, s₁, -, hfault⟩ := h
  exact hfault.span_mem hy

/-- The definition of a variable is at fault as a whole or in its literal. -/
theorem VarDefFault.span_mem {v : VarDef Unit} (h : VarDefFault v err) : err.span ∈ v.spans := by
  cases h with
  | text => exact List.mem_cons_of_mem _ List.mem_cons_self
  | value => exact List.mem_cons_self

theorem span_mem_of_mapM_checkVarDef {vs : List (VarDef Unit)}
    (h : vs.mapM checkVarDef = .error err) : err.span ∈ vs.flatMap VarDef.spans := by
  obtain ⟨v, hv, hfault⟩ := exists_varDefFault_of_mapM h
  exact List.mem_flatMap.2 ⟨v, hv, hfault.span_mem⟩

/-- A function is at fault at a place inside of it. -/
theorem span_mem_of_checkFunDef {f : FunDef Unit} (h : checkFunDef cfg env f = .error err) :
    err.span ∈ f.spans := by
  obtain hvars | ⟨vars, -, h⟩ := bind_eq_error_iff.1 h
  · exact List.mem_append_left _ (span_mem_of_mapM_checkVarDef hvars)
  · have hfault := faultWithin_of_checkBody (bind_pure_eq_error_iff.1 h)
    exact List.mem_append_right _ hfault.span_mem

theorem span_mem_of_checkClassDef {c : ClassDef Unit} (h : checkClassDef cfg env c = .error err) :
    err.span ∈ c.spans := by
  obtain hfields | ⟨fields, -, h⟩ := bind_eq_error_iff.1 h
  · exact List.mem_append_left _ (span_mem_of_mapM_checkVarDef hfields)
  · obtain ⟨f, hf, hfail⟩ := exists_of_mapM_eq_error (bind_pure_eq_error_iff.1 h)
    exact List.mem_append_right _ (List.mem_flatMap.2 ⟨f, hf, span_mem_of_checkFunDef hfail⟩)

/-- **An item that fails does so at one of its places.** -/
theorem Item.span_mem_of_check {u : Item Unit} (h : runIn s (u.check cfg env) = (.error err, s')) :
    err.span ∈ u.spans := by
  cases u with
  | varDef v =>
    obtain ⟨hfail, -⟩ := runIn_reading_eq_error_iff.1 (runIn_discard_eq_error_iff.1 h)
    exact (varDefFault_of_checkVarDef hfail).span_mem
  | funDef f =>
    obtain ⟨hfail, -⟩ := runIn_reading_eq_error_iff.1 (runIn_discard_eq_error_iff.1 h)
    exact span_mem_of_checkFunDef hfail
  | classDef c =>
    obtain ⟨hfail, -⟩ := runIn_reading_eq_error_iff.1 (runIn_discard_eq_error_iff.1 h)
    exact span_mem_of_checkClassDef hfail
  | stmt x =>
    obtain ⟨-, y, hy, hfault⟩ := faultAt_of_checkStmt (runIn_discard_eq_error_iff.1 h)
    exact hfault.span_mem (mem_blockNodes_iff.2 ⟨x, List.mem_cons_self, hy⟩)

/-! ### Programs -/

/-- **The first item at fault decides.** The items before it check, each statement in the scope that
those before it leave. The item fails, and the fault lies at one of its places. Other statements after
it, or any other statements if it is a declaration, leave the fault as it is. -/
theorem checkProgram_first_fault (h : checkProgram cfg env p = .error err) :
    ∃ before u after s s', p.items = before ++ u :: after ∧
      runIn .topLevel (forM before (Item.check cfg (env.declare p))) = (.ok (), s) ∧
      runIn s (u.check cfg (env.declare p)) = (.error err, s') ∧ err.span ∈ u.spans ∧
      ∀ stmts, (u.isStmt → before ++ [u] <+: Program.items { p with stmts }) →
        checkProgram cfg env { p with stmts } = .error err := by
  obtain ⟨s', hrun⟩ := checkProgram_eq_error_iff.1 h
  obtain ⟨before, u, after, s, hitems, hbefore, hu⟩ := runIn_forM_eq_error_iff.1 hrun
  refine ⟨before, u, after, s, s', hitems, hbefore, hu, Item.span_mem_of_check hu, ?_⟩
  intro stmts hstmts
  have hinit : before ++ [u] <+: Program.items { p with stmts } := by
    cases hkind : u.isStmt with
    | true => exact hstmts hkind
    | false => exact (Program.prefix_declarations_of_items hitems hkind).trans (List.prefix_append _ _)
  obtain ⟨rest, hrest⟩ := hinit
  -- The declarations are the same, so the items up to `u` are checked as before.
  refine checkProgram_eq_error_iff.2 ⟨s', runIn_forM_eq_error_iff.2 ?_⟩
  exact ⟨before, u, rest, s, by rw [← hrest, List.append_assoc]; rfl, hbefore, hu⟩

/-- The text `n: int = 1\nt = n\nif n < 2:\n    u = t\n    u = True\nv = w\n`, in which the second
statement fails deep inside, in a scope with the variables that were assigned to before. -/
def relyingChunk : Program Unit :=
  let mark (start stop : Nat) : Mark Unit := ⟨⟨start, stop⟩, ()⟩
  let n : VarDef Unit := ⟨⟨⟨"n", ⟨0, 1⟩⟩, .int, ⟨0, 6⟩⟩, .int 1, ⟨9, 10⟩, mark 0 10⟩
  let smaller : Expr Unit :=
    .binary (mark 20 25) .lt (.var (mark 20 21) "n") (.literal (mark 24 25) (.int 2))
  let first : Stmt Unit := .assign (mark 31 36) ⟨"u", ⟨31, 32⟩⟩ (.var (mark 35 36) "t")
  let second : Stmt Unit :=
    .assign (mark 41 49) ⟨"u", ⟨41, 42⟩⟩ (.literal (mark 45 49) (.bool true))
  { vars := [n]
    funs := []
    classes := []
    stmts := [.assign (mark 11 16) ⟨"t", ⟨11, 12⟩⟩ (.var (mark 15 16) "n"),
      .ifElse (mark 17 49) smaller [first, second] [],
      .assign (mark 50 55) ⟨"v", ⟨50, 51⟩⟩ (.var (mark 54 55) "w")]
    span := ⟨0, 56⟩ }

/-- The third item is at fault: it is checked where `t` is known, and it fails whatever statements come
after it. -/
theorem checkProgram_first_fault_relyingChunk :
    let env := Env.builtins.declare relyingChunk
    let fault : TypeError := ⟨.mismatch .int .bool, ⟨41, 49⟩⟩
    checkProgram .reference .builtins relyingChunk = .error fault ∧
      ∃ before u after s', relyingChunk.items = before ++ u :: after ∧ before.length = 2 ∧ u.isStmt ∧
        runIn .topLevel (forM before (Item.check .reference env)) =
          (.ok (), Scope.topLevel.bind "t" .int) ∧
        runIn (Scope.topLevel.bind "t" .int) (u.check .reference env) = (.error fault, s') ∧
        fault.span ∈ u.spans ∧
        ∀ rest, checkProgram .reference .builtins
          { relyingChunk with stmts := relyingChunk.stmts.take 2 ++ rest } = .error fault := by
  intro env fault
  have hcheck : checkProgram .reference .builtins relyingChunk = .error fault := rfl
  obtain ⟨before, u, after, s, s', hitems, hbefore, hu, hspan, hother⟩ :=
    checkProgram_first_fault hcheck
  have hget : relyingChunk.items[before.length]? = some u := by
    rw [hitems]
    simp
  -- No other item has the place of the fault.
  have hplace : ∀ i < 4, (relyingChunk.items[i]?).any (fun u ↦ fault.span ∈ u.spans) → i = 2 := by
    decide
  have hlength : before.length = 2 := by
    refine hplace before.length ?_ ?_
    · exact (List.getElem?_eq_some_iff.1 hget).1
    · rw [hget]
      exact decide_eq_true hspan
  obtain rfl : before = relyingChunk.items.take 2 := by
    rw [hitems, ← hlength, List.take_left]
  obtain rfl : s = Scope.topLevel.bind "t" .int := (Prod.mk.inj hbefore).2.symm
  rw [hlength] at hget
  obtain rfl := Option.some.inj hget
  exact ⟨hcheck, _, _, after, s', hitems, hlength, rfl, hbefore, hu, hspan,
    fun rest ↦ hother _ fun _ ↦ ⟨rest.map .stmt, rfl⟩⟩

end NominalCheck
