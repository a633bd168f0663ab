import NominalCheck.Env

/-!
# Type errors

A `TypeError` is a fault and the place that it is about. A `Fault` records the cause, with the types
and names involved; `Fault.message` is the one place where causes are put into words, and
`Fault.code` gives the code under which a fault of its kind is registered.

The faults that concern the structure of a program, the signature of a call or the checker itself
have a kind of their own each, with the causes that the rules know. `described` holds a cause that
is known by its description only.
-/

namespace NominalCheck

/-- A name or type as it stands in a message. -/
def quoted (text : String) : String := s!"`{text}`"

/-- Rules about the structure of a program. -/
inductive StructuralFault where
  /-- A result is returned where there is no function. -/
  | returnOutsideFunction
  /-- The two blocks of a choice have different types. -/
  | branchesDiffer (thenType elseType : Ty)
  /-- Some other rule. -/
  | described (text : String)
deriving DecidableEq, Repr, Inhabited

/-- Rules about the arguments of calls. -/
inductive SignatureFault where
  /-- A builtin is called with the wrong number of arguments. -/
  | builtinArity (name : String) (expected given : Nat)
  /-- The argument types of a function call are not those of the parameters. -/
  | arguments (callee : String) (expected given : List Ty)
  /-- A constructor is declared to give a result. -/
  | constructorResult (cls : String) (result : Ty)
  /-- An object is constructed with the wrong number of arguments. -/
  | constructorArity (cls : String) (expected given : Nat)
  /-- Arguments are given although the class has no constructor. -/
  | noConstructor (cls : String) (given : Nat)
  /-- A method is called with the wrong number of arguments, receiver included. -/
  | methodArity (cls method : String) (expected given : Nat)
  /-- Some other rule. -/
  | described (text : String)
deriving DecidableEq, Repr, Inhabited

/-- Things that can be written but are not supported. -/
inductive InternalFault where
  /-- A text literal. -/
  | textLiteral
  /-- An assignment to several variables at once. -/
  | destructuring
  /-- Some other gap. -/
  | described (text : String)
deriving DecidableEq, Repr, Inhabited

/-- What is wrong. -/
inductive Fault where
  /-- A value of one type stands where another is expected. -/
  | mismatch (expected found : Ty)
  /-- A name is not declared; `similar` are declared names close to it, nearest first. -/
  | undefinedName (name : String) (similar : List String)
  /-- A type has no member of the given name. -/
  | undefinedMember (owner member : String)
  /-- A condition is not a truth value. -/
  | nonBoolCondition (found : Ty)
  /-- A rule about the structure of programs is broken. -/
  | structural (fault : StructuralFault)
  /-- An operator has no result for its operands. -/
  | unsupportedOperands (symbol : String) (operands : List Ty)
  /-- A rule about the arguments of calls is broken. -/
  | signature (fault : SignatureFault)
  /-- Something is not supported. -/
  | internal (fault : InternalFault)
deriving DecidableEq, Repr, Inhabited

/-! ### Wording -/

/-- Types listed as in a parameter list. -/
def typeList (types : List Ty) : String := ", ".intercalate (types.map Ty.text)

/-- Operand types as a message lists them. -/
def operandList (types : List Ty) : String :=
  " and ".intercalate (types.map fun t ↦ quoted t.text)

/-- The broken rule in words. -/
def StructuralFault.message : StructuralFault → String
  | returnOutsideFunction => "`return` outside of a function"
  | branchesDiffer thenType elseType =>
    "branches of `if` have different types: " ++ quoted thenType.text ++ " and " ++
      quoted elseType.text
  | described text => text

/-- The broken rule in words. -/
def SignatureFault.message : SignatureFault → String
  | builtinArity name expected given =>
    let verb := if given = 1 then "was" else "were"
    s!"builtin `{name}` takes {expected} argument(s) but {given} {verb} given"
  | arguments callee expected given =>
    quoted callee ++ " expects arguments (" ++ typeList expected ++ ") but was called with (" ++
      typeList given ++ ")"
  | constructorResult cls result =>
    quoted ClassInfo.initName ++ " of class " ++ quoted cls ++ " must return " ++
      quoted Ty.none.text ++ ", not " ++ quoted result.text
  | constructorArity cls expected given =>
    s!"constructor of `{cls}` takes {expected} argument(s) but {given} were given"
  | noConstructor cls given =>
    "class " ++ quoted cls ++ " has no " ++ quoted ClassInfo.initName ++
      s!" and takes no arguments, but {given} were given"
  | methodArity cls method expected given =>
    s!"method `{cls}.{method}` takes {expected} argument(s) including the receiver " ++
      s!"but {given} were given"
  | described text => text

/-- The missing feature in words. -/
def InternalFault.message : InternalFault → String
  | textLiteral => "string literals are not part of the typed subset"
  | destructuring => "destructuring assignment is not implemented"
  | described text => text

/-- The fault in one sentence. -/
def Fault.message : Fault → String
  | mismatch expected found =>
    "expected type " ++ quoted expected.text ++ ", got type " ++ quoted found.text
  | undefinedName name _ => "unresolved name " ++ quoted name
  | undefinedMember owner member => quoted owner ++ " has no attribute " ++ quoted member
  | nonBoolCondition found =>
    "condition must be of type " ++ quoted Ty.bool.text ++ ", got type " ++ quoted found.text
  | structural fault => fault.message
  | unsupportedOperands symbol operands =>
    "unsupported operand type(s) for " ++ quoted symbol ++ ": " ++ operandList operands
  | signature fault => fault.message
  | internal fault => "internal error: " ++ fault.message

/-- The code under which faults of this kind are registered. -/
def Fault.code : Fault → String
  | mismatch .. => "E0001"
  | unsupportedOperands .. => "E0002"
  | nonBoolCondition .. => "E0003"
  | signature .. => "E0004"
  | undefinedName .. => "E1001"
  | undefinedMember .. => "E1002"
  | structural .. => "E3001"
  | internal .. => "E9001"

/-- A fault and the place that it is about. -/
structure TypeError where
  /-- What is wrong. -/
  fault : Fault
  /-- Where it is wrong. -/
  span : Span
deriving DecidableEq, Repr, Inhabited

end NominalCheck
