import NominalCheck.Check.Expr

/-!
# Checking statements

Statements are checked in a scope that they may add to: at top level, the first assignment to a
name declares it. Checking is therefore a computation of the monad `CheckM`, which carries the scope
along and can fail.

The scope is **not** rolled back. What was bound before a fault stays bound after it, and what is
bound in one branch of a choice or in the body of a loop stays bound after it, too. In the body of a
function nothing is ever bound: assigning to an unknown name there is a fault.
-/

namespace NominalCheck

/-- Computations that can fail and that carry a scope along, also past a failure. -/
abbrev CheckM (α : Type) : Type := ExceptT TypeError (StateM Scope) α

namespace CheckM

variable {α β : Type}

/-- The outcome of a computation started in `scope`, and the scope that it leaves. -/
def runIn (scope : Scope) (x : CheckM α) : Except TypeError α × Scope := x.run.run scope

/-- Runs something that only reads the scope. -/
def reading (f : Scope → Except TypeError α) : CheckM α := fun scope ↦ (f scope, scope)

/-- Binds a variable. -/
def bindVar (name : String) (type : Ty) : CheckM Unit :=
  fun scope ↦ (.ok (), scope.bind name type)

@[simp] theorem runIn_pure (scope : Scope) (a : α) : runIn scope (pure a) = (.ok a, scope) := rfl

@[simp] theorem runIn_reading (scope : Scope) (f : Scope → Except TypeError α) :
    runIn scope (reading f) = (f scope, scope) := rfl

@[simp] theorem runIn_bindVar (scope : Scope) (name : String) (type : Ty) :
    runIn scope (bindVar name type) = (.ok (), scope.bind name type) := rfl

/-- The second computation starts in the scope that the first leaves, unless that one fails. -/
theorem runIn_bind (scope : Scope) (x : CheckM α) (f : α → CheckM β) :
    runIn scope (x >>= f) =
      match runIn scope x with
      | (.ok a, scope') => runIn scope' (f a)
      | (.error e, scope') => (.error e, scope') := by
  simp only [runIn, ExceptT.run_bind, StateT.run_bind]
  rcases x.run.run scope with ⟨_ | _, _⟩ <;> rfl

end CheckM

open CheckM

/-- The type of a block: that of its last statement. -/
def blockType (stmts : List (Stmt Ty)) : Ty := (stmts.getLast?.map Stmt.ann).getD .none

/-- Checks an assignment. The target is looked up **before** the value is checked. -/
def checkAssign (cfg : Config) (env : Env) (m : Mark Unit) (target : Ident) (value : Expr Unit) :
    CheckM (Stmt Ty) := do
  let bound ← reading fun scope ↦ .ok (scope.resolve? env target.name)
  match bound with
  | some t => do
    let value ← reading fun scope ↦ inferExpr cfg env scope value
    reading fun _ ↦ checkFits t value.ann m.span
    pure (.assign (m.annotate .none) target value)
  | none => do
    reading fun scope ↦
      if scope.isTopLevel then .ok ()
      else .error ⟨undefined target.name (scope.visibleNames env), target.span⟩
    let value ← reading fun scope ↦ inferExpr cfg env scope value
    bindVar target.name value.ann
    pure (.assign (m.annotate .none) target value)

/-- Checks a `return` in the given scope. -/
def checkReturn (cfg : Config) (env : Env) (m : Mark Unit) (value : Option (Expr Unit))
    (scope : Scope) : Except TypeError (Stmt Ty) :=
  match scope.kind with
  | .topLevel => .error ⟨.structural .returnOutsideFunction, m.span⟩
  | .function result => do
    let value ← value.mapM (inferExpr cfg env scope)
    let t := (value.map Expr.ann).getD .none
    checkFits result t m.span
    pure (.ret (m.annotate t) value)

/-- Checks an assignment to a field in the given scope. -/
def checkSetField (cfg : Config) (env : Env) (m : Mark Unit) (object : Expr Unit) (name : Ident)
    (value : Expr Unit) (scope : Scope) : Except TypeError (Stmt Ty) := do
  let object ← inferExpr cfg env scope object
  let t ← fieldType env object.ann name.name m.span
  let value ← inferExpr cfg env scope value
  checkFits t value.ann m.span
  pure (.setField (m.annotate .none) object name value)

/-- The type of a choice: the common type of its blocks. -/
def choiceType (span : Span) (thenType elseType : Ty) : Except TypeError Ty :=
  match thenType.join? elseType with
  | some t => .ok t
  | none => .error ⟨.structural (.branchesDiffer thenType elseType), span⟩

mutual

/-- Checks a statement and annotates it with types. -/
def checkStmt (cfg : Config) (env : Env) : Stmt Unit → CheckM (Stmt Ty)
  | .assign m target value => checkAssign cfg env m target value
  | .destructure m _ _ => reading fun _ ↦ .error ⟨.internal .destructuring, m.span⟩
  | .expr m value => do
    let value ← reading fun scope ↦ inferExpr cfg env scope value
    pure (.expr (m.annotate value.ann) value)
  | .ifElse m cond thenBlock elseBlock => do
    let cond ← reading fun scope ↦ inferCondition cfg env scope cond
    let thenBlock ← checkBlock cfg env thenBlock
    let elseBlock ← checkBlock cfg env elseBlock
    let t ← reading fun _ ↦ choiceType m.span (blockType thenBlock) (blockType elseBlock)
    pure (.ifElse (m.annotate t) cond thenBlock elseBlock)
  | .ret m value => reading (checkReturn cfg env m value)
  | .loop m cond body => do
    let cond ← reading fun scope ↦ inferCondition cfg env scope cond
    let body ← checkBlock cfg env body
    pure (.loop (m.annotate .none) cond body)
  | .pass m => pure (.pass (m.annotate .none))
  | .setField m object name value => reading (checkSetField cfg env m object name value)

/-- Checks statements one after the other, each in the scope that the one before leaves. -/
def checkBlock (cfg : Config) (env : Env) : List (Stmt Unit) → CheckM (List (Stmt Ty))
  | [] => pure []
  | s :: ss => do
    let s ← checkStmt cfg env s
    let ss ← checkBlock cfg env ss
    pure (s :: ss)

end

end NominalCheck
