import NominalCheck.Config
import NominalCheck.Scope
import NominalCheck.Similar
import NominalCheck.TypeError

/-!
# The typing rules of single nodes

Each rule here says what type a node has, or which fault it is, **given the types of its parts**.
None of them walks a tree: the recursion over expressions and statements, which decides the order
in which parts are looked at, is kept apart from the rules.

A rule that looks a name up reports names similar to it from the name space it searched.
-/

namespace NominalCheck

/-! ### Names -/

/-- The fault of using `name` where only `candidates` are declared. -/
def undefined (name : String) (candidates : List String) : Fault :=
  .undefinedName name (similarNames name candidates)

/-- The type of a variable. -/
def variableType (env : Env) (scope : Scope) (span : Span) (name : String) :
    Except TypeError Ty :=
  match scope.resolve? env name with
  | some t => .ok t
  | none => .error ⟨undefined name (scope.visibleNames env), span⟩

/-- The signature of a function that can only be a function. -/
def builtinSignature (env : Env) (f : Ident) : Except TypeError Signature :=
  match env.functions.get? f.name with
  | some sig => .ok sig
  | none => .error ⟨undefined f.name env.functions.keys, f.span⟩

/-- The signature of a callee that is not a class. Classes count as similar names all the same,
since a class could have stood in its place. -/
def calleeSignature (env : Env) (f : Ident) : Except TypeError Signature :=
  match env.functions.get? f.name with
  | some sig => .ok sig
  | none => .error ⟨undefined f.name (env.functions.keys ++ env.classes.keys), f.span⟩

/-- The class that is constructed. -/
def constructedClass (env : Env) (c : Ident) : Except TypeError ClassInfo :=
  match env.classes.get? c.name with
  | some info => .ok info
  | none => .error ⟨undefined c.name env.classes.keys, c.span⟩

/-! ### Literals and operators -/

/-- The type of a literal. -/
def literalType (span : Span) : Literal → Except TypeError Ty
  | .bool _ => .ok .bool
  | .int _ => .ok .int
  | .none => .ok .none
  | .text _ => .error ⟨.internal .textLiteral, span⟩

/-- The type of a binary operation. -/
def binaryType (op : BinaryOp) (span : Span) (left right : Ty) : Except TypeError Ty :=
  match op.result? left right with
  | some t => .ok t
  | none => .error ⟨.unsupportedOperands op.symbol [left, right], span⟩

/-- The type of a unary operation. -/
def unaryType (op : UnaryOp) (span : Span) (operand : Ty) : Except TypeError Ty :=
  match op.result? operand with
  | some t => .ok t
  | none => .error ⟨.unsupportedOperands op.symbol [operand], span⟩

/-! ### Arguments -/

/-- A value of type `found` fits where `expected` is declared. -/
def checkFits (expected found : Ty) (span : Span) : Except TypeError Unit :=
  if expected.Accepts found then .ok () else .error ⟨.mismatch expected found, span⟩

/-- Every argument is accepted for its parameter; the first that is not is reported at its own
place. Parameters or arguments without a counterpart are left alone. -/
def checkArgs (accepts : Ty → Ty → Prop) [DecidableRel accepts] :
    (params : List Ty) → (args : List (Expr Ty)) → Except TypeError Unit
  | param :: params, arg :: args =>
    if accepts param arg.ann then checkArgs accepts params args
    else .error ⟨.mismatch param arg.ann, arg.span⟩
  | _, _ => .ok ()

/-- The type of a builtin called with one argument. -/
def builtinUnaryType (cfg : Config) (sig : Signature) (name : String) (span : Span)
    (arg : Expr Ty) : Except TypeError Ty :=
  match sig.params with
  | [param] =>
    if cfg.strictBuiltinArguments then do
      checkArgs Ty.Accepts [param] [arg]
      pure sig.result
    else pure sig.result
  | params => .error ⟨.signature (.builtinArity name params.length 1), span⟩

/-- The type of a builtin called with two arguments. -/
def builtinBinaryType (cfg : Config) (sig : Signature) (name : String) (span : Span)
    (first second : Expr Ty) : Except TypeError Ty :=
  match sig.params with
  | [param, param'] => do
    checkArgs cfg.BuiltinAccepts [param, param'] [first, second]
    pure sig.result
  | params => .error ⟨.signature (.builtinArity name params.length 2), span⟩

/-- The type of a function call. The argument types have to be the parameter types themselves: not
even `None` is coerced. -/
def callType (sig : Signature) (callee : String) (span : Span) (args : List (Expr Ty)) :
    Except TypeError Ty :=
  let given := args.map Expr.ann
  if given = sig.params then .ok sig.result
  else .error ⟨.signature (.arguments callee sig.params given), span⟩

/-- An object of the class can be constructed with the given arguments. The receiver, which is the
constructor's first parameter, is not among them. -/
def checkConstruction (cfg : Config) (info : ClassInfo) (cls : String) (span : Span)
    (args : List (Expr Ty)) : Except TypeError Unit :=
  match info.constructor? with
  | none =>
    if args.length = 0 then .ok ()
    else .error ⟨.signature (.noConstructor cls args.length), span⟩
  | some init =>
    let expected := init.params.length - 1
    if init.result ≠ .none then .error ⟨.signature (.constructorResult cls init.result), span⟩
    else if args.length ≠ expected then
      .error ⟨.signature (.constructorArity cls expected args.length), span⟩
    else if cfg.checkConstructorArguments then checkArgs Ty.Accepts init.params.tail args
    else .ok ()

/-! ### Members -/

/-- The class that a member called `member` of an object of the given type belongs to. -/
def memberOwner (env : Env) (object : Ty) (member : String) (span : Span) :
    Except TypeError (String × ClassInfo) :=
  match object.className? with
  | none => .error ⟨.undefinedMember object.text member, span⟩
  | some cls =>
    match env.classes.get? cls with
    | some info => .ok (cls, info)
    | none => .error ⟨undefined cls env.classes.keys, span⟩

/-- The type of a field of an object. -/
def fieldType (env : Env) (object : Ty) (name : String) (span : Span) : Except TypeError Ty := do
  let (cls, info) ← memberOwner env object name span
  match info.fields.get? name with
  | some t => .ok t
  | none => .error ⟨.undefinedMember cls name, span⟩

/-- The class and the signature of a method of an object. -/
def methodSignature (env : Env) (object : Ty) (name : String) (span : Span) :
    Except TypeError (String × Signature) := do
  let (cls, info) ← memberOwner env object name span
  match info.methods.get? name with
  | some sig => .ok (cls, sig)
  | none => .error ⟨.undefinedMember cls name, span⟩

/-- The type of a method call. The receiver is the first argument. -/
def methodType (sig : Signature) (cls name : String) (span : Span) (receiver : Expr Ty)
    (args : List (Expr Ty)) : Except TypeError Ty :=
  if args.length + 1 = sig.params.length then do
    checkArgs Ty.Accepts sig.params (receiver :: args)
    pure sig.result
  else .error ⟨.signature (.methodArity cls name sig.params.length (args.length + 1)), span⟩

end NominalCheck
