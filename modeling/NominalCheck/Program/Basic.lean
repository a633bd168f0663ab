import NominalCheck.Program.Expr

/-!
# Statements, declarations and programs

A program, or one chunk of an interactive session, declares variables, functions and classes and
then lists statements. Declarations carry their types with them; nothing but the type of a variable
first assigned at top level is ever inferred.

As for expressions, `α` is the type of the annotations. A checked statement is annotated with its
type, a variable definition with the type of its initial value, a function with its declared result
type, and a class with the type of its objects.
-/

namespace NominalCheck

/-- Statements whose nodes carry annotations from `α`. -/
inductive Stmt (α : Type) where
  /-- An assignment to a variable. -/
  | assign (mark : Mark α) (target : Ident) (value : Expr α)
  /-- An assignment to several variables at once. -/
  | destructure (mark : Mark α) (targets : List Ident) (value : Expr α)
  /-- An expression evaluated for its own sake. -/
  | expr (mark : Mark α) (value : Expr α)
  /-- A choice between two blocks. -/
  | ifElse (mark : Mark α) (cond : Expr α) (thenBlock elseBlock : List (Stmt α))
  /-- The end of a function's run, with a result or without. -/
  | ret (mark : Mark α) (value : Option (Expr α))
  /-- A block repeated while a condition holds. -/
  | loop (mark : Mark α) (cond : Expr α) (body : List (Stmt α))
  /-- The statement that does nothing. -/
  | pass (mark : Mark α)
  /-- An assignment to a field of an object. -/
  | setField (mark : Mark α) (object : Expr α) (name : Ident) (value : Expr α)
deriving Inhabited

namespace Stmt

variable {α : Type}

/-- The mark of the root node. -/
def mark : Stmt α → Mark α
  | assign m _ _ | destructure m _ _ | expr m _ | ifElse m _ _ _ | ret m _ | loop m _ _ | pass m
  | setField m _ _ _ => m

/-- The place of the statement. -/
def span (s : Stmt α) : Span := s.mark.span

/-- The annotation of the root node. -/
def ann (s : Stmt α) : α := s.mark.ann

end Stmt

/-- A name with its declared type. -/
structure Binder where
  /-- The name that is declared. -/
  name : Ident
  /-- Its type. -/
  type : Ty
  /-- The place of name and type together. -/
  span : Span
deriving DecidableEq, Repr, Inhabited

/-- The binding that a declared name makes. -/
def Binder.binding (b : Binder) : String × Ty := (b.name.name, b.type)

/-- A variable or field declared with a literal as its initial value. -/
structure VarDef (α : Type) where
  /-- The declared name and type. -/
  binder : Binder
  /-- The initial value. -/
  value : Literal
  /-- The place of the initial value. -/
  valueSpan : Span
  /-- The place and annotation of the whole definition. -/
  mark : Mark α
deriving DecidableEq, Repr, Inhabited

/-- A function or a method. A method lists its receiver as the first parameter. -/
structure FunDef (α : Type) where
  /-- The name of the function. -/
  name : Ident
  /-- The parameters, in order. -/
  params : List Binder
  /-- The declared result type. -/
  result : Ty
  /-- The local variables. -/
  vars : List (VarDef α)
  /-- The statements. -/
  body : List (Stmt α)
  /-- The place and annotation of the whole definition. -/
  mark : Mark α
deriving Inhabited

/-- A class. -/
structure ClassDef (α : Type) where
  /-- The name of the class. -/
  name : Ident
  /-- The fields, in order. -/
  fields : List (VarDef α)
  /-- The methods, in order. -/
  methods : List (FunDef α)
  /-- The place and annotation of the whole definition. -/
  mark : Mark α
deriving Inhabited

/-- A program, or one chunk of a session. -/
structure Program (α : Type) where
  /-- The global variables. -/
  vars : List (VarDef α)
  /-- The functions. -/
  funs : List (FunDef α)
  /-- The classes. -/
  classes : List (ClassDef α)
  /-- The statements at top level. -/
  stmts : List (Stmt α)
  /-- The place of the whole program. -/
  span : Span
deriving Inhabited

/-- The program declares nothing and does nothing. -/
def Program.isEmpty {α : Type} (p : Program α) : Bool :=
  p.vars.isEmpty && p.funs.isEmpty && p.classes.isEmpty && p.stmts.isEmpty

end NominalCheck
