import Mathlib.Data.List.Forall2
import NominalCheck.Check.Program

/-!
# The typing rules as relations

The rules of the language, stated without the checker: what it means that an expression **has** a
type, that a statement turns one scope into another, and that a program leaves an environment behind.
Nothing here computes, names a fault or fixes an order in which parts are looked at.

* `HasType cfg env scope e t` — the expression `e` has type `t`.
* `StmtTyped cfg env s x t s'` and `BlockTyped cfg env s b t s'` — in the scope `s`, a statement or
  block has type `t` and leaves the scope `s'`.
* `VarDefTyped`, `FunDefTyped`, `ClassDefTyped` — a definition obeys the rules.
* `ProgramTyped cfg env p t env'` — a program has type `t` and leaves the environment `env'`.

The three choices of a `Config` enter as side conditions of single rules. A call form has its **own**
rule for arguments: a function takes exactly its parameter types, a method coerces `None`, a
construction looks at the types only on request, and so does a builtin with one argument, while a
builtin with two looks at them in the direction that is chosen.
-/

namespace NominalCheck

/-! ### Literals and operators -/

/-- The type of a literal. Texts have none. -/
inductive Literal.HasType : Literal → Ty → Prop
  | bool (b : Bool) : Literal.HasType (.bool b) .bool
  | int (i : Int) : Literal.HasType (.int i) .int
  | none : Literal.HasType .none .none

/-- The result type of a binary operator for operands of two types. -/
inductive BinaryOp.HasResult : BinaryOp → Ty → Ty → Ty → Prop
  | arithmetic {op : BinaryOp} (hop : op ∈ [add, sub, mul, floorDiv, mod]) :
      op.HasResult .int .int .int
  | equality {op : BinaryOp} {t : Ty} (hop : op ∈ [eq, ne]) : op.HasResult t t .bool
  | ordering {op : BinaryOp} (hop : op ∈ [le, ge, lt, gt]) : op.HasResult .int .int .bool
  | connective {op : BinaryOp} (hop : op ∈ [and, or]) : op.HasResult .bool .bool .bool
  | identity {l r : Ty} (hl : l.isReference) (hr : r.isReference) : is.HasResult l r .bool

/-- The result type of a unary operator for an operand of some type. -/
inductive UnaryOp.HasResult : UnaryOp → Ty → Ty → Prop
  | neg : UnaryOp.HasResult .neg .int .int
  | not : UnaryOp.HasResult .not .bool .bool

/-! ### Arguments -/

/-- Objects of a class can be constructed from arguments of the given types. Without a constructor
there are no arguments. A constructor has to give `None`, and the receiver, its first parameter, is
not among the arguments; the types of these count only on request. -/
inductive Constructible (cfg : Config) (info : ClassInfo) : List Ty → Prop
  | bare (hinit : info.constructor? = none) : Constructible cfg info []
  | init {params ts : List Ty} (hinit : info.constructor? = some ⟨params, .none⟩)
      (hlen : ts.length = params.length - 1)
      (hts : cfg.checkConstructorArguments → List.Forall₂ Ty.Accepts params.tail ts) :
      Constructible cfg info ts

/-- A two-argument builtin takes arguments of types `a` and `b` for parameters of types `p` and `q`.
The conventional direction has the parameters accept the arguments, the other one the reverse. -/
def TakesPair (cfg : Config) (p q a b : Ty) : Prop :=
  if cfg.conventionalBuiltinDirection then p.Accepts a ∧ q.Accepts b
  else a.Accepts p ∧ b.Accepts q

/-! ### Expressions -/

/-- The expression has the type. -/
inductive HasType (cfg : Config) (env : Env) (scope : Scope) : Expr Unit → Ty → Prop
  | literal {m : Mark Unit} {v : Literal} {t : Ty} (hv : v.HasType t) :
      HasType cfg env scope (.literal m v) t
  | var {m : Mark Unit} {x : String} {t : Ty} (hx : scope.resolve? env x = some t) :
      HasType cfg env scope (.var m x) t
  | binary {m : Mark Unit} {op : BinaryOp} {l r : Expr Unit} {tl tr t : Ty}
      (hl : HasType cfg env scope l tl) (hr : HasType cfg env scope r tr)
      (hop : op.HasResult tl tr t) : HasType cfg env scope (.binary m op l r) t
  | unary {m : Mark Unit} {op : UnaryOp} {e : Expr Unit} {te t : Ty}
      (he : HasType cfg env scope e te) (hop : op.HasResult te t) :
      HasType cfg env scope (.unary m op e) t
  | print {m : Mark Unit} {f : Ident} {e : Expr Unit} {t : Ty} (hf : f.name = "print")
      (he : HasType cfg env scope e t) : HasType cfg env scope (.builtinUnary m f e) t
  | builtinUnary {m : Mark Unit} {f : Ident} {e : Expr Unit} {p r t : Ty} (hf : f.name ≠ "print")
      (hsig : env.functions.get? f.name = some ⟨[p], r⟩) (he : HasType cfg env scope e t)
      (hfit : cfg.strictBuiltinArguments → p.Accepts t) :
      HasType cfg env scope (.builtinUnary m f e) r
  | builtinBinary {m : Mark Unit} {f : Ident} {a b : Expr Unit} {p q r ta tb : Ty}
      (hsig : env.functions.get? f.name = some ⟨[p, q], r⟩) (ha : HasType cfg env scope a ta)
      (hb : HasType cfg env scope b tb) (hfit : TakesPair cfg p q ta tb) :
      HasType cfg env scope (.builtinBinary m f a b) r
  | call {m : Mark Unit} {f : Ident} {args : List (Expr Unit)} {params : List Ty} {r : Ty}
      (hcls : f.name ∉ env.classes) (hsig : env.functions.get? f.name = some ⟨params, r⟩)
      (hargs : List.Forall₂ (HasType cfg env scope) args params) :
      HasType cfg env scope (.call m f args) r
  | callClass {m : Mark Unit} {c : Ident} {info : ClassInfo} {args : List (Expr Unit)}
      {ts : List Ty} (hcls : env.classes.get? c.name = some info)
      (hargs : List.Forall₂ (HasType cfg env scope) args ts) (hnew : Constructible cfg info ts) :
      HasType cfg env scope (.call m c args) (.cls c.name)
  | construct {m : Mark Unit} {c : Ident} {info : ClassInfo} {args : List (Expr Unit)}
      {ts : List Ty} (hcls : env.classes.get? c.name = some info)
      (hargs : List.Forall₂ (HasType cfg env scope) args ts) (hnew : Constructible cfg info ts) :
      HasType cfg env scope (.construct m c args) (.cls c.name)
  | field {m : Mark Unit} {o : Expr Unit} {x : Ident} {c : String} {info : ClassInfo} {t : Ty}
      (ho : HasType cfg env scope o (.cls c)) (hcls : env.classes.get? c = some info)
      (hx : info.fields.get? x.name = some t) : HasType cfg env scope (.field m o x) t
  | method {m : Mark Unit} {o : Expr Unit} {f : Ident} {c : String} {info : ClassInfo}
      {args : List (Expr Unit)} {params ts : List Ty} {r : Ty}
      (ho : HasType cfg env scope o (.cls c)) (hcls : env.classes.get? c = some info)
      (hf : info.methods.get? f.name = some ⟨params, r⟩)
      (hargs : List.Forall₂ (HasType cfg env scope) args ts)
      (hfit : List.Forall₂ Ty.Accepts params (.cls c :: ts)) :
      HasType cfg env scope (.method m o f args) r

/-! ### Statements -/

mutual

/-- In the first scope the statement has the type, and it leaves the second scope. -/
inductive StmtTyped (cfg : Config) (env : Env) : Scope → Stmt Unit → Ty → Scope → Prop
  /-- A variable that is known keeps its type, and the value has to fit it. -/
  | reassign {s : Scope} {m : Mark Unit} {x : Ident} {e : Expr Unit} {bound t : Ty}
      (hx : s.resolve? env x.name = some bound) (he : HasType cfg env s e t)
      (hfit : bound.Accepts t) : StmtTyped cfg env s (.assign m x e) .none s
  /-- At top level, a variable that is not known takes the type of the value. -/
  | introduce {s : Scope} {m : Mark Unit} {x : Ident} {e : Expr Unit} {t : Ty}
      (hx : s.resolve? env x.name = none) (htop : s.kind = .topLevel)
      (he : HasType cfg env s e t) :
      StmtTyped cfg env s (.assign m x e) .none (s.bind x.name t)
  | expr {s : Scope} {m : Mark Unit} {e : Expr Unit} {t : Ty} (he : HasType cfg env s e t) :
      StmtTyped cfg env s (.expr m e) t s
  /-- The second block starts in the scope that the first one leaves. -/
  | ifElse {s₀ s₁ s₂ : Scope} {m : Mark Unit} {c : Expr Unit} {a b : List (Stmt Unit)} {t : Ty}
      (hc : HasType cfg env s₀ c .bool) (ha : BlockTyped cfg env s₀ a t s₁)
      (hb : BlockTyped cfg env s₁ b t s₂) : StmtTyped cfg env s₀ (.ifElse m c a b) t s₂
  | retNone {s : Scope} {m : Mark Unit} {r : Ty} (hfun : s.kind = .function r)
      (hfit : r.Accepts .none) : StmtTyped cfg env s (.ret m none) .none s
  | ret {s : Scope} {m : Mark Unit} {e : Expr Unit} {r t : Ty} (hfun : s.kind = .function r)
      (he : HasType cfg env s e t) (hfit : r.Accepts t) :
      StmtTyped cfg env s (.ret m (some e)) t s
  | loop {s s' : Scope} {m : Mark Unit} {c : Expr Unit} {b : List (Stmt Unit)} {t : Ty}
      (hc : HasType cfg env s c .bool) (hb : BlockTyped cfg env s b t s') :
      StmtTyped cfg env s (.loop m c b) .none s'
  | pass {s : Scope} {m : Mark Unit} : StmtTyped cfg env s (.pass m) .none s
  | setField {s : Scope} {m : Mark Unit} {o e : Expr Unit} {x : Ident} {c : String}
      {info : ClassInfo} {declared t : Ty} (ho : HasType cfg env s o (.cls c))
      (hcls : env.classes.get? c = some info) (hx : info.fields.get? x.name = some declared)
      (he : HasType cfg env s e t) (hfit : declared.Accepts t) :
      StmtTyped cfg env s (.setField m o x e) .none s

/-- In the first scope the block has the type, which is that of its last statement, and it leaves
the second scope. -/
inductive BlockTyped (cfg : Config) (env : Env) : Scope → List (Stmt Unit) → Ty → Scope → Prop
  | nil {s : Scope} : BlockTyped cfg env s [] .none s
  | last {s s' : Scope} {x : Stmt Unit} {t : Ty} (hx : StmtTyped cfg env s x t s') :
      BlockTyped cfg env s [x] t s'
  | cons {s₀ s₁ s₂ : Scope} {x y : Stmt Unit} {rest : List (Stmt Unit)} {t u : Ty}
      (hx : StmtTyped cfg env s₀ x t s₁) (hrest : BlockTyped cfg env s₁ (y :: rest) u s₂) :
      BlockTyped cfg env s₀ (x :: y :: rest) u s₂

end

/-! ### Definitions and programs -/

/-- The initial value of a variable or field fits the declared type. -/
inductive VarDefTyped (v : VarDef Unit) : Prop
  | intro {t : Ty} (hvalue : v.value.HasType t) (hfit : v.binder.type.Accepts t) : VarDefTyped v

/-- The local variables of a function or method obey the rules, and so does the body, in a scope of
its own that holds the parameters and then the local variables. -/
inductive FunDefTyped (cfg : Config) (env : Env) (f : FunDef Unit) : Prop
  | intro {t : Ty} {s : Scope} (hvars : ∀ v ∈ f.vars, VarDefTyped v)
      (hbody : BlockTyped cfg env
        (((Scope.function f.result).bindMany (f.params.map Binder.binding)).bindMany
          (f.vars.map VarDef.binding))
        f.body t s) : FunDefTyped cfg env f

/-- The fields and the methods of a class obey the rules. -/
inductive ClassDefTyped (cfg : Config) (env : Env) (c : ClassDef Unit) : Prop
  | intro (hfields : ∀ v ∈ c.fields, VarDefTyped v)
      (hmethods : ∀ f ∈ c.methods, FunDefTyped cfg env f) : ClassDefTyped cfg env c

/-- All definitions of a program obey the rules in the environment that **all** of them are declared
in. The statements run from an empty scope at top level, and the variables that they introduce become
globals. -/
inductive ProgramTyped (cfg : Config) (env : Env) (p : Program Unit) : Ty → Env → Prop
  | intro {t : Ty} {s : Scope} (hvars : ∀ v ∈ p.vars, VarDefTyped v)
      (hfuns : ∀ f ∈ p.funs, FunDefTyped cfg (env.declare p) f)
      (hclasses : ∀ c ∈ p.classes, ClassDefTyped cfg (env.declare p) c)
      (hstmts : BlockTyped cfg (env.declare p) .topLevel p.stmts t s) :
      ProgramTyped cfg env p t ((env.declare p).promote s)

end NominalCheck
