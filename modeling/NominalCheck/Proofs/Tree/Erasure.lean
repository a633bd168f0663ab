import NominalCheck.Env

/-!
# Annotations and calls of classes

Two ways to change a tree without touching its shape.

* `erase` drops the annotations. Every name, literal, operator and place is kept.
* `resolveCalls env` tells the calls of classes from the calls of functions: a call whose callee is a
  class of the environment becomes a construction. **Nothing else** is changed, and the annotations
  are kept, too.

Both are given for expressions, statements, definitions and programs.
-/

namespace NominalCheck

variable {α : Type}

/-! ### Dropping annotations -/

mutual

/-- The expression without its annotations. -/
def Expr.erase : Expr α → Expr Unit
  | .literal m v => .literal (m.annotate ()) v
  | .var m x => .var (m.annotate ()) x
  | .binary m op l r => .binary (m.annotate ()) op l.erase r.erase
  | .unary m op e => .unary (m.annotate ()) op e.erase
  | .builtinUnary m f e => .builtinUnary (m.annotate ()) f e.erase
  | .builtinBinary m f a b => .builtinBinary (m.annotate ()) f a.erase b.erase
  | .call m f args => .call (m.annotate ()) f (eraseArgs args)
  | .construct m c args => .construct (m.annotate ()) c (eraseArgs args)
  | .field m o x => .field (m.annotate ()) o.erase x
  | .method m o f args => .method (m.annotate ()) o.erase f (eraseArgs args)

/-- The arguments without their annotations. -/
def eraseArgs : List (Expr α) → List (Expr Unit)
  | [] => []
  | e :: es => e.erase :: eraseArgs es

end

mutual

/-- The statement without its annotations. -/
def Stmt.erase : Stmt α → Stmt Unit
  | .assign m x e => .assign (m.annotate ()) x e.erase
  | .destructure m xs e => .destructure (m.annotate ()) xs e.erase
  | .expr m e => .expr (m.annotate ()) e.erase
  | .ifElse m c a b => .ifElse (m.annotate ()) c.erase (eraseBlock a) (eraseBlock b)
  | .ret m e => .ret (m.annotate ()) (e.map Expr.erase)
  | .loop m c b => .loop (m.annotate ()) c.erase (eraseBlock b)
  | .pass m => .pass (m.annotate ())
  | .setField m o x e => .setField (m.annotate ()) o.erase x e.erase

/-- The block without its annotations. -/
def eraseBlock : List (Stmt α) → List (Stmt Unit)
  | [] => []
  | x :: b => x.erase :: eraseBlock b

end

/-- The definition of a variable without its annotation. -/
def VarDef.erase (v : VarDef α) : VarDef Unit where
  binder := v.binder
  value := v.value
  valueSpan := v.valueSpan
  mark := v.mark.annotate ()

/-- The definition of a function without its annotations. -/
def FunDef.erase (f : FunDef α) : FunDef Unit where
  name := f.name
  params := f.params
  result := f.result
  vars := f.vars.map VarDef.erase
  body := eraseBlock f.body
  mark := f.mark.annotate ()

/-- The definition of a class without its annotations. -/
def ClassDef.erase (c : ClassDef α) : ClassDef Unit where
  name := c.name
  fields := c.fields.map VarDef.erase
  methods := c.methods.map FunDef.erase
  mark := c.mark.annotate ()

/-- The program without its annotations. -/
def Program.erase (p : Program α) : Program Unit where
  vars := p.vars.map VarDef.erase
  funs := p.funs.map FunDef.erase
  classes := p.classes.map ClassDef.erase
  stmts := eraseBlock p.stmts
  span := p.span

/-- A mark that came without an annotation is what erasing leaves of it. -/
@[simp] theorem Mark.annotate_annotate_unit (m : Mark Unit) (a : α) :
    (m.annotate a).annotate () = m := rfl

/-- Places are no annotations. -/
@[simp] theorem Expr.span_erase (e : Expr α) : e.erase.span = e.span := by cases e <;> rfl

/-! ### Calls of classes -/

mutual

/-- The expression in which every call of a class is a construction. -/
def Expr.resolveCalls (env : Env) : Expr α → Expr α
  | .literal m v => .literal m v
  | .var m x => .var m x
  | .binary m op l r => .binary m op (l.resolveCalls env) (r.resolveCalls env)
  | .unary m op e => .unary m op (e.resolveCalls env)
  | .builtinUnary m f e => .builtinUnary m f (e.resolveCalls env)
  | .builtinBinary m f a b => .builtinBinary m f (a.resolveCalls env) (b.resolveCalls env)
  | .call m f args =>
    if f.name ∈ env.classes then .construct m f (resolveCallsArgs env args)
    else .call m f (resolveCallsArgs env args)
  | .construct m c args => .construct m c (resolveCallsArgs env args)
  | .field m o x => .field m (o.resolveCalls env) x
  | .method m o f args => .method m (o.resolveCalls env) f (resolveCallsArgs env args)

/-- The arguments in which every call of a class is a construction. -/
def resolveCallsArgs (env : Env) : List (Expr α) → List (Expr α)
  | [] => []
  | e :: es => e.resolveCalls env :: resolveCallsArgs env es

end

mutual

/-- The statement in which every call of a class is a construction. -/
def Stmt.resolveCalls (env : Env) : Stmt α → Stmt α
  | .assign m x e => .assign m x (e.resolveCalls env)
  | .destructure m xs e => .destructure m xs (e.resolveCalls env)
  | .expr m e => .expr m (e.resolveCalls env)
  | .ifElse m c a b =>
    .ifElse m (c.resolveCalls env) (resolveCallsBlock env a) (resolveCallsBlock env b)
  | .ret m e => .ret m (e.map (Expr.resolveCalls env))
  | .loop m c b => .loop m (c.resolveCalls env) (resolveCallsBlock env b)
  | .pass m => .pass m
  | .setField m o x e => .setField m (o.resolveCalls env) x (e.resolveCalls env)

/-- The block in which every call of a class is a construction. -/
def resolveCallsBlock (env : Env) : List (Stmt α) → List (Stmt α)
  | [] => []
  | x :: b => x.resolveCalls env :: resolveCallsBlock env b

end

/-- The function in whose body every call of a class is a construction. -/
def FunDef.resolveCalls (env : Env) (f : FunDef α) : FunDef α :=
  { f with body := resolveCallsBlock env f.body }

/-- The class in whose methods every call of a class is a construction. -/
def ClassDef.resolveCalls (env : Env) (c : ClassDef α) : ClassDef α :=
  { c with methods := c.methods.map (FunDef.resolveCalls env) }

/-- The program in which every call of a class is a construction. -/
def Program.resolveCalls (env : Env) (p : Program α) : Program α :=
  { p with
    funs := p.funs.map (FunDef.resolveCalls env)
    classes := p.classes.map (ClassDef.resolveCalls env)
    stmts := resolveCallsBlock env p.stmts }

/-- A call keeps its place when it becomes a construction. -/
@[simp] theorem Expr.span_resolveCalls (env : Env) (e : Expr α) :
    (e.resolveCalls env).span = e.span := by
  cases e with
  | call m f args =>
    rw [resolveCalls]
    split <;> rfl
  | literal | var | binary | unary | builtinUnary | builtinBinary | construct | field | method => rfl

end NominalCheck
