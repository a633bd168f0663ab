import NominalCheck.Check.Rule

/-!
# Checking expressions

`inferExpr` annotates an expression with types, bottom up and from left to right, and stops at the
first fault. It walks the tree and leaves every decision to the rules of the single nodes. What it
decides itself is the **order**: a function or class is looked up before its arguments are checked,
and the object of a member before the member.

The shape of the tree is kept, except that a call of a class becomes a construction.
-/

namespace NominalCheck

mutual

/-- Annotates an expression with types. -/
def inferExpr (cfg : Config) (env : Env) (scope : Scope) :
    Expr Unit → Except TypeError (Expr Ty)
  | .literal m value => do
    let t ← literalType m.span value
    pure (.literal (m.annotate t) value)
  | .var m name => do
    let t ← variableType env scope m.span name
    pure (.var (m.annotate t) name)
  | .binary m op left right => do
    let left ← inferExpr cfg env scope left
    let right ← inferExpr cfg env scope right
    let t ← binaryType op m.span left.ann right.ann
    pure (.binary (m.annotate t) op left right)
  | .unary m op operand => do
    let operand ← inferExpr cfg env scope operand
    let t ← unaryType op m.span operand.ann
    pure (.unary (m.annotate t) op operand)
  | .builtinUnary m name arg =>
    if name.name = Env.printName then do
      let arg ← inferExpr cfg env scope arg
      pure (.builtinUnary (m.annotate arg.ann) name arg)
    else do
      let sig ← builtinSignature env name
      let arg ← inferExpr cfg env scope arg
      let t ← builtinUnaryType cfg sig name.name m.span arg
      pure (.builtinUnary (m.annotate t) name arg)
  | .builtinBinary m name first second => do
    let sig ← builtinSignature env name
    let first ← inferExpr cfg env scope first
    let second ← inferExpr cfg env scope second
    let t ← builtinBinaryType cfg sig name.name m.span first second
    pure (.builtinBinary (m.annotate t) name first second)
  | .call m callee args =>
    match env.classes.get? callee.name with
    | some info => do
      let args ← inferArgs cfg env scope args
      checkConstruction cfg info callee.name m.span args
      pure (.construct (m.annotate (.cls callee.name)) callee args)
    | none => do
      let sig ← calleeSignature env callee
      let args ← inferArgs cfg env scope args
      let t ← callType sig callee.name m.span args
      pure (.call (m.annotate t) callee args)
  | .construct m cls args => do
    let info ← constructedClass env cls
    let args ← inferArgs cfg env scope args
    checkConstruction cfg info cls.name m.span args
    pure (.construct (m.annotate (.cls cls.name)) cls args)
  | .field m object name => do
    let object ← inferExpr cfg env scope object
    let t ← fieldType env object.ann name.name m.span
    pure (.field (m.annotate t) object name)
  | .method m object name args => do
    let object ← inferExpr cfg env scope object
    let (cls, sig) ← methodSignature env object.ann name.name m.span
    let args ← inferArgs cfg env scope args
    let t ← methodType sig cls name.name m.span object args
    pure (.method (m.annotate t) object name args)

/-- Annotates arguments with types, from left to right. -/
def inferArgs (cfg : Config) (env : Env) (scope : Scope) :
    List (Expr Unit) → Except TypeError (List (Expr Ty))
  | [] => pure []
  | e :: es => do
    let e ← inferExpr cfg env scope e
    let es ← inferArgs cfg env scope es
    pure (e :: es)

end

/-- Annotates a condition, which has to be a truth value. -/
def inferCondition (cfg : Config) (env : Env) (scope : Scope) (cond : Expr Unit) :
    Except TypeError (Expr Ty) := do
  let cond ← inferExpr cfg env scope cond
  if cond.ann = .bool then pure cond else .error ⟨.nonBoolCondition cond.ann, cond.span⟩

end NominalCheck
