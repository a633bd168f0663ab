import NominalCheck.Program.Operator
import NominalCheck.Span

/-!
# Expressions

Expression trees, over an arbitrary type of annotations. Every node carries a `Mark`; the
expressions that come in are `Expr Unit` and the checked ones `Expr Ty`.

A call names its callee, which may be a function or a class. In a checked tree the two are told
apart: a call of a class is a `construct`.
-/

namespace NominalCheck

/-- The literals. Texts can be written but have no type. -/
inductive Literal where
  | bool (value : Bool)
  | int (value : Int)
  | none
  | text (value : String)
deriving DecidableEq, Repr, Inhabited

/-- Expressions whose nodes carry annotations from `α`. -/
inductive Expr (α : Type) where
  /-- A literal. -/
  | literal (mark : Mark α) (value : Literal)
  /-- The value of a variable. -/
  | var (mark : Mark α) (name : String)
  /-- A binary operator applied to two operands. -/
  | binary (mark : Mark α) (op : BinaryOp) (left right : Expr α)
  /-- A unary operator applied to its operand. -/
  | unary (mark : Mark α) (op : UnaryOp) (operand : Expr α)
  /-- A builtin called with one argument. -/
  | builtinUnary (mark : Mark α) (name : Ident) (arg : Expr α)
  /-- A builtin called with two arguments. -/
  | builtinBinary (mark : Mark α) (name : Ident) (first second : Expr α)
  /-- A call of a function or, before checking, of a class. -/
  | call (mark : Mark α) (callee : Ident) (args : List (Expr α))
  /-- The construction of an object of a class. -/
  | construct (mark : Mark α) (cls : Ident) (args : List (Expr α))
  /-- The value of an object's field. -/
  | field (mark : Mark α) (object : Expr α) (name : Ident)
  /-- A call of an object's method. -/
  | method (mark : Mark α) (object : Expr α) (name : Ident) (args : List (Expr α))
deriving Inhabited

namespace Expr

variable {α : Type}

/-- The mark of the root node. -/
def mark : Expr α → Mark α
  | literal m _ | var m _ | binary m _ _ _ | unary m _ _ | builtinUnary m _ _
  | builtinBinary m _ _ _ | call m _ _ | construct m _ _ | field m _ _ | method m _ _ _ => m

/-- The place of the expression. -/
def span (e : Expr α) : Span := e.mark.span

/-- The annotation of the root node. -/
def ann (e : Expr α) : α := e.mark.ann

end Expr

end NominalCheck
