import NominalCheck.Check.Stmt

/-!
# Checking programs

A program is checked against an environment. Its declarations are added to the environment first, so
they may refer to each other in any order. Then the variables, the functions, the classes and last
the statements are checked; the first fault ends the check.

When everything checks, the names first assigned at top level become globals, and the resulting
environment is the one to check the next program against.
-/

namespace NominalCheck

/-- The result of a check that found no fault. -/
structure Checked where
  /-- The program, annotated with types. -/
  program : Program Ty
  /-- The environment after the program. -/
  env : Env
  /-- The type of the last statement at top level. -/
  type : Ty
deriving Inhabited

/-- Checks the definition of a variable or field: the initial value has to fit the declared type. -/
def checkVarDef (v : VarDef Unit) : Except TypeError (VarDef Ty) := do
  let t ← literalType v.valueSpan v.value
  checkFits v.binder.type t v.mark.span
  pure { binder := v.binder, value := v.value, valueSpan := v.valueSpan, mark := v.mark.annotate t }

/-- Checks a block on its own, started in the given scope, and gives the scope that it leaves. -/
def checkBody (cfg : Config) (env : Env) (scope : Scope) (body : List (Stmt Unit)) :
    Except TypeError (List (Stmt Ty) × Scope) :=
  match (checkBlock cfg env body).runIn scope with
  | (.ok stmts, scope') => .ok (stmts, scope')
  | (.error e, _) => .error e

/-- Checks the definition of a function or method: its local variables, then its body. -/
def checkFunDef (cfg : Config) (env : Env) (f : FunDef Unit) : Except TypeError (FunDef Ty) := do
  let vars ← f.vars.mapM checkVarDef
  let (body, _) ← checkBody cfg env f.scope f.body
  pure { name := f.name, params := f.params, result := f.result, vars, body,
         mark := f.mark.annotate f.result }

/-- Checks the definition of a class: its fields, then its methods. -/
def checkClassDef (cfg : Config) (env : Env) (c : ClassDef Unit) :
    Except TypeError (ClassDef Ty) := do
  let fields ← c.fields.mapM checkVarDef
  let methods ← c.methods.mapM (checkFunDef cfg env)
  pure { name := c.name, fields, methods, mark := c.mark.annotate (.cls c.name.name) }

/-- Checks a program against an environment. -/
def checkProgram (cfg : Config) (env : Env) (p : Program Unit) : Except TypeError Checked := do
  let declared := env.declare p
  let vars ← p.vars.mapM checkVarDef
  let funs ← p.funs.mapM (checkFunDef cfg declared)
  let classes ← p.classes.mapM (checkClassDef cfg declared)
  let (stmts, scope) ← checkBody cfg declared .topLevel p.stmts
  pure { program := { vars, funs, classes, stmts, span := p.span },
         env := declared.promote scope,
         type := blockType stmts }

end NominalCheck
