import NominalCheck.Program.Basic
import NominalCheck.Table

/-!
# Environments of declarations

An `Env` holds what a whole program declares: the types of the globals, the signatures of the
functions, and the members of the classes. The three name spaces are separate tables.

Environments are values. An update gives a new environment and leaves the old one as it was, so an
earlier revision can be kept and gone back to.

`Env.Equiv` compares two environments without regard to the order of their tables.
-/

namespace NominalCheck

/-- The parameter types of a function, receiver included for a method, and its result type. -/
structure Signature where
  /-- The parameter types, in order. -/
  params : List Ty
  /-- The result type. -/
  result : Ty
deriving DecidableEq, Repr, Inhabited

/-- The signature that a definition declares. -/
def FunDef.signature {α : Type} (f : FunDef α) : Signature where
  params := f.params.map Binder.type
  result := f.result

/-- The members of a class. There is no inheritance, so these are all of them. -/
structure ClassInfo where
  /-- The field types. -/
  fields : Table Ty
  /-- The method signatures. -/
  methods : Table Signature
deriving DecidableEq, Inhabited

namespace ClassInfo

/-- The name of the method that construction calls. -/
def initName : String := "__init__"

/-- The signature of the constructor, if the class has one. -/
def constructor? (c : ClassInfo) : Option Signature := c.methods.get? initName

/-- The two classes have the same members, in whatever order. -/
def Equiv (c d : ClassInfo) : Prop :=
  c.fields.SameEntries Eq d.fields ∧ c.methods.SameEntries Eq d.methods

instance : DecidableRel Equiv := fun c d ↦
  inferInstanceAs
    (Decidable (c.fields.SameEntries Eq d.fields ∧ c.methods.SameEntries Eq d.methods))

end ClassInfo

/-! ### The binding that a declaration makes -/

/-- A variable is bound to its declared type. -/
def VarDef.binding {α : Type} (v : VarDef α) : String × Ty := v.binder.binding

/-- A function is bound to its signature. -/
def FunDef.binding {α : Type} (f : FunDef α) : String × Signature := (f.name.name, f.signature)

/-- The members that a class definition declares; of two with one name the last counts. -/
def ClassDef.info {α : Type} (c : ClassDef α) : ClassInfo where
  fields := .ofList (c.fields.map VarDef.binding)
  methods := .ofList (c.methods.map FunDef.binding)

/-- A class is bound to its members. -/
def ClassDef.binding {α : Type} (c : ClassDef α) : String × ClassInfo := (c.name.name, c.info)

/-! ### Environments -/

/-- What a whole program declares. -/
structure Env where
  /-- The types of the global variables. -/
  globals : Table Ty
  /-- The signatures of the functions. -/
  functions : Table Signature
  /-- The members of the classes. -/
  classes : Table ClassInfo
deriving DecidableEq, Inhabited

namespace Env

/-- The environment without declarations. -/
def empty : Env where
  globals := .empty
  functions := .empty
  classes := .empty

/-- The builtin whose result has the type of its argument. -/
def printName : String := "print"

/-- The builtin functions, all of which are declared to give an integer. -/
def builtinFunctions : List (String × Signature) :=
  [("abs", ⟨[.int], .int⟩),
   ("max", ⟨[.int, .int], .int⟩),
   ("min", ⟨[.int, .int], .int⟩),
   ("pow", ⟨[.int, .int], .int⟩),
   (printName, ⟨[.object], .int⟩)]

/-- The environment in which only the builtin functions are declared. -/
def builtins : Env := { empty with functions := .ofList builtinFunctions }

/-- Declares one global variable. -/
def withGlobal (env : Env) (name : String) (type : Ty) : Env :=
  { env with globals := env.globals.insert name type }

/-- Declares one function. -/
def withFunction (env : Env) (name : String) (sig : Signature) : Env :=
  { env with functions := env.functions.insert name sig }

/-- Declares global variables one after the other. -/
def withGlobals (env : Env) (bindings : List (String × Ty)) : Env :=
  { env with globals := env.globals.insertMany bindings }

/-- Adds the declarations of a program. A declaration replaces an earlier one of the same name and
kind, a class as a whole. -/
def declare {α : Type} (env : Env) (p : Program α) : Env where
  globals := env.globals.insertMany (p.vars.map VarDef.binding)
  functions := env.functions.insertMany (p.funs.map FunDef.binding)
  classes := env.classes.insertMany (p.classes.map ClassDef.binding)

@[simp] theorem globals_declare {α : Type} (env : Env) (p : Program α) :
    (env.declare p).globals = env.globals.insertMany (p.vars.map VarDef.binding) := rfl

@[simp] theorem functions_declare {α : Type} (env : Env) (p : Program α) :
    (env.declare p).functions = env.functions.insertMany (p.funs.map FunDef.binding) := rfl

@[simp] theorem classes_declare {α : Type} (env : Env) (p : Program α) :
    (env.declare p).classes = env.classes.insertMany (p.classes.map ClassDef.binding) := rfl

/-- The two environments declare the same things, in whatever order. -/
def Equiv (e f : Env) : Prop :=
  e.globals.SameEntries Eq f.globals ∧ e.functions.SameEntries Eq f.functions ∧
    e.classes.SameEntries ClassInfo.Equiv f.classes

instance : DecidableRel Equiv := fun e f ↦
  inferInstanceAs (Decidable (e.globals.SameEntries Eq f.globals ∧
    e.functions.SameEntries Eq f.functions ∧ e.classes.SameEntries ClassInfo.Equiv f.classes))

end Env

end NominalCheck
