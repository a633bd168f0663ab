import NominalCheck.Env

/-!
# Scopes

A `Scope` holds the variables of one block of statements: the body of a function, or the top level
of a program. A name is looked up there first and among the globals afterwards.
-/

namespace NominalCheck

/-- The two kinds of block. -/
inductive ScopeKind where
  /-- The top level of a program. -/
  | topLevel
  /-- The body of a function with the given result type. -/
  | function (result : Ty)
deriving DecidableEq, Repr, Inhabited

/-- The variables of one block. -/
structure Scope where
  /-- The kind of block. -/
  kind : ScopeKind
  /-- The types of its variables. -/
  vars : Table Ty
deriving DecidableEq, Inhabited

namespace Scope

/-- The scope in which the top level of a program starts. -/
def topLevel : Scope := ⟨.topLevel, .empty⟩

/-- The scope of a function body before anything is bound in it. -/
def function (result : Ty) : Scope := ⟨.function result, .empty⟩

/-- Whether the block is the top level of a program. -/
def isTopLevel (s : Scope) : Bool :=
  match s.kind with
  | .topLevel => true
  | .function _ => false

/-- The type that a result must have. At top level nothing is returned. -/
def expectedResult (s : Scope) : Ty :=
  match s.kind with
  | .topLevel => .none
  | .function result => result

/-- Binds a variable. -/
def bind (s : Scope) (name : String) (type : Ty) : Scope :=
  { s with vars := s.vars.insert name type }

/-- Binds variables one after the other. -/
def bindMany (s : Scope) (bindings : List (String × Ty)) : Scope :=
  { s with vars := s.vars.insertMany bindings }

/-- The type of a variable: that of the block's own variable, else that of the global. -/
def resolve? (s : Scope) (env : Env) (name : String) : Option Ty :=
  (s.vars.get? name).or (env.globals.get? name)

/-- The names of all variables in reach, the block's own first. -/
def visibleNames (s : Scope) (env : Env) : List String := s.vars.keys ++ env.globals.keys

@[simp] theorem kind_bind (s : Scope) (name : String) (type : Ty) :
    (s.bind name type).kind = s.kind := rfl

@[simp] theorem kind_bindMany (s : Scope) (bindings : List (String × Ty)) :
    (s.bindMany bindings).kind = s.kind := rfl

/-- A name resolves exactly if it is visible. -/
theorem resolve?_eq_none_iff {s : Scope} {env : Env} {name : String} :
    s.resolve? env name = none ↔ name ∉ s.visibleNames env := by
  rw [resolve?, Option.or_eq_none_iff, Table.get?_eq_none_iff, Table.get?_eq_none_iff, visibleNames,
    List.mem_append, not_or, Table.mem_iff, Table.mem_iff]

/-- A variable that is bound is found under its name, whatever the globals are. -/
theorem resolve?_bind (s : Scope) (env : Env) (name x : String) (type : Ty) :
    (s.bind name type).resolve? env x = if x = name then some type else s.resolve? env x := by
  rw [resolve?, bind, Table.get?_insert]
  split <;> rfl

end Scope

/-- The environment in which the variables of a block have become globals. -/
def Env.promote (env : Env) (s : Scope) : Env := env.withGlobals s.vars.entries

/-- The scope in which the body of a function is checked: its parameters are bound, then its local
variables. -/
def FunDef.scope {α : Type} (f : FunDef α) : Scope :=
  (Scope.function f.result).bindMany (f.params.map Binder.binding ++ f.vars.map VarDef.binding)

end NominalCheck
