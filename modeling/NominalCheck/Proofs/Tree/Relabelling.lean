import Mathlib.Data.List.Basic
import NominalCheck.Check.Program
import NominalCheck.Proofs.Table

/-!
# Changing names and places

A `Relabelling` gives every name a new name and every place a new place. Different names stay
different, and the two names that the language itself knows, the builtin `print` and the constructor
`__init__`, stay as they are. Nothing is asked of the places: they may all become the same.

A relabelling acts on everything that holds names or places: types, trees with whatever annotations,
tables, environments, scopes and the result of a check. Variables, functions, classes, fields and
methods are **all** renamed by the same function, and so are the class names inside types. Literals
and operators are kept.

The laws here say that the operations on tables, environments and scopes do not care: looking up,
writing, declaring and promoting can be done before or after.
-/

namespace NominalCheck

variable {α β : Type}

/-- A change of names and places. -/
structure Relabelling where
  /-- The new name for a name. -/
  name : String → String
  /-- The new place for a place. -/
  span : Span → Span
  /-- Different names stay different. -/
  name_injective : Function.Injective name
  /-- The builtin that the rules know by name keeps it. -/
  name_print : name Env.printName = Env.printName
  /-- The method that the rules know by name keeps it. -/
  name_init : name ClassInfo.initName = ClassInfo.initName

variable (ρ : Relabelling)

/-- `print` stays, and nothing else becomes `print`. -/
theorem Relabelling.name_eq_print_iff (x : String) :
    ρ.name x = Env.printName ↔ x = Env.printName := by
  constructor
  · intro h
    exact ρ.name_injective (h.trans ρ.name_print.symm)
  · rintro rfl
    exact ρ.name_print

/-! ### Types -/

namespace Ty

/-- The type with its class renamed. -/
def relabel : Ty → Ty
  | .int => .int
  | .bool => .bool
  | .none => .none
  | .cls name => .cls (ρ.name name)

/-- Different types stay different. -/
theorem relabel_injective : Function.Injective (relabel ρ) := by
  intro t u h
  cases t <;> cases u <;> simp only [relabel, reduceCtorEq, cls.injEq] at h ⊢
  exact ρ.name_injective h

theorem relabel_inj {t u : Ty} : t.relabel ρ = u.relabel ρ ↔ t = u := (relabel_injective ρ).eq_iff

@[simp] theorem relabel_eq_int_iff {t : Ty} : t.relabel ρ = .int ↔ t = .int :=
  relabel_inj ρ (u := .int)

@[simp] theorem relabel_eq_bool_iff {t : Ty} : t.relabel ρ = .bool ↔ t = .bool :=
  relabel_inj ρ (u := .bool)

@[simp] theorem relabel_eq_none_iff {t : Ty} : t.relabel ρ = .none ↔ t = .none :=
  relabel_inj ρ (u := .none)

/-- Only the names of classes change, not what is a class. -/
@[simp] theorem isClass_relabel (t : Ty) : (t.relabel ρ).isClass = t.isClass := by cases t <;> rfl

@[simp] theorem isReference_relabel (t : Ty) : (t.relabel ρ).isReference = t.isReference := by
  cases t <;> rfl

/-- Renaming classes changes nothing about which types stand in for which. -/
theorem accepts_relabel_iff {t u : Ty} : (t.relabel ρ).Accepts (u.relabel ρ) ↔ t.Accepts u := by
  rw [Accepts, Accepts, relabel_inj, relabel_eq_none_iff, isClass_relabel]

end Ty

/-! ### Trees -/

/-- The name and its place, both changed. -/
def Ident.relabel (x : Ident) : Ident := ⟨ρ.name x.name, ρ.span x.span⟩

/-- The mark with its place changed, and its annotation by `g`. -/
def Mark.relabel (g : α → β) (m : Mark α) : Mark β := ⟨ρ.span m.span, g m.ann⟩

section Trees

variable (g : α → β)

mutual

/-- The expression with its names and places changed, and its annotations by `g`. -/
def Expr.relabel : Expr α → Expr β
  | .literal m v => .literal (m.relabel ρ g) v
  | .var m x => .var (m.relabel ρ g) (ρ.name x)
  | .binary m op l r => .binary (m.relabel ρ g) op l.relabel r.relabel
  | .unary m op e => .unary (m.relabel ρ g) op e.relabel
  | .builtinUnary m f e => .builtinUnary (m.relabel ρ g) (f.relabel ρ) e.relabel
  | .builtinBinary m f a b => .builtinBinary (m.relabel ρ g) (f.relabel ρ) a.relabel b.relabel
  | .call m f args => .call (m.relabel ρ g) (f.relabel ρ) (relabelArgs args)
  | .construct m c args => .construct (m.relabel ρ g) (c.relabel ρ) (relabelArgs args)
  | .field m o x => .field (m.relabel ρ g) o.relabel (x.relabel ρ)
  | .method m o f args => .method (m.relabel ρ g) o.relabel (f.relabel ρ) (relabelArgs args)

/-- The arguments with their names and places changed. -/
def relabelArgs : List (Expr α) → List (Expr β)
  | [] => []
  | e :: es => e.relabel :: relabelArgs es

end

/-- The arguments are relabelled one by one. -/
theorem relabelArgs_eq_map (args : List (Expr α)) :
    relabelArgs ρ g args = args.map (Expr.relabel ρ g) := by
  induction args with
  | nil => rfl
  | cons e es ih => rw [relabelArgs, List.map_cons, ih]

@[simp] theorem Expr.ann_relabel (e : Expr α) : (e.relabel ρ g).ann = g e.ann := by cases e <;> rfl

mutual

/-- The statement with its names and places changed, and its annotations by `g`. -/
def Stmt.relabel : Stmt α → Stmt β
  | .assign m x e => .assign (m.relabel ρ g) (x.relabel ρ) (e.relabel ρ g)
  | .destructure m xs e => .destructure (m.relabel ρ g) (xs.map (Ident.relabel ρ)) (e.relabel ρ g)
  | .expr m e => .expr (m.relabel ρ g) (e.relabel ρ g)
  | .ifElse m c a b => .ifElse (m.relabel ρ g) (c.relabel ρ g) (relabelBlock a) (relabelBlock b)
  | .ret m e => .ret (m.relabel ρ g) (e.map (Expr.relabel ρ g))
  | .loop m c b => .loop (m.relabel ρ g) (c.relabel ρ g) (relabelBlock b)
  | .pass m => .pass (m.relabel ρ g)
  | .setField m o x e => .setField (m.relabel ρ g) (o.relabel ρ g) (x.relabel ρ) (e.relabel ρ g)

/-- The block with its names and places changed. -/
def relabelBlock : List (Stmt α) → List (Stmt β)
  | [] => []
  | x :: b => x.relabel :: relabelBlock b

end

/-- The statements are relabelled one by one. -/
theorem relabelBlock_eq_map (b : List (Stmt α)) :
    relabelBlock ρ g b = b.map (Stmt.relabel ρ g) := by
  induction b with
  | nil => rfl
  | cons x b ih => rw [relabelBlock, List.map_cons, ih]

theorem Stmt.ann_relabel (x : Stmt α) : (x.relabel ρ g).ann = g x.ann := by cases x <;> rfl

/-- The declared name with its type, renamed. -/
def Binder.relabel (b : Binder) : Binder := ⟨b.name.relabel ρ, b.type.relabel ρ, ρ.span b.span⟩

/-- The definition of a variable with its names and places changed. -/
def VarDef.relabel (v : VarDef α) : VarDef β where
  binder := v.binder.relabel ρ
  value := v.value
  valueSpan := ρ.span v.valueSpan
  mark := v.mark.relabel ρ g

/-- The definition of a function with its names and places changed. -/
def FunDef.relabel (f : FunDef α) : FunDef β where
  name := f.name.relabel ρ
  params := f.params.map (Binder.relabel ρ)
  result := f.result.relabel ρ
  vars := f.vars.map (VarDef.relabel ρ g)
  body := relabelBlock ρ g f.body
  mark := f.mark.relabel ρ g

/-- The definition of a class with its names and places changed. -/
def ClassDef.relabel (c : ClassDef α) : ClassDef β where
  name := c.name.relabel ρ
  fields := c.fields.map (VarDef.relabel ρ g)
  methods := c.methods.map (FunDef.relabel ρ g)
  mark := c.mark.relabel ρ g

/-- The program with its names and places changed, and its annotations by `g`. -/
def Program.relabel (p : Program α) : Program β where
  vars := p.vars.map (VarDef.relabel ρ g)
  funs := p.funs.map (FunDef.relabel ρ g)
  classes := p.classes.map (ClassDef.relabel ρ g)
  stmts := relabelBlock ρ g p.stmts
  span := ρ.span p.span

end Trees

/-! ### Tables -/

namespace Table

variable (g : α → β)

/-- The table with its names changed, and its values by `g`, in the same order. -/
def relabel (t : Table α) : Table β where
  entries := t.entries.map (Prod.map ρ.name g)
  nodup := by
    have hfst : (t.entries.map (Prod.map ρ.name g)).map Prod.fst =
        (t.entries.map Prod.fst).map ρ.name := by
      rw [List.map_map, List.map_map]
      rfl
    rw [hfst]
    exact t.nodup.map ρ.name_injective

/-- A renamed entry is found under its new name, and no other entry is: this is what injectivity is
for. -/
theorem lookup_map_relabel (es : List (String × α)) (k : String) :
    (es.map (Prod.map ρ.name g)).lookup (ρ.name k) = (es.lookup k).map g := by
  induction es with
  | nil => rfl
  | cons e es ih =>
    obtain ⟨n, v⟩ := e
    show ((ρ.name n, g v) :: es.map (Prod.map ρ.name g)).lookup (ρ.name k) = _
    rw [lookup_cons_ite, lookup_cons_ite, ih, apply_ite (Option.map g)]
    exact if_congr ρ.name_injective.eq_iff rfl rfl

/-- Writing an entry can be done before or after. Injectivity decides **where** it is written. -/
theorem upsert_map_relabel (k : String) (v : α) (es : List (String × α)) :
    upsert (ρ.name k) (g v) (es.map (Prod.map ρ.name g)) =
      (upsert k v es).map (Prod.map ρ.name g) := by
  induction es with
  | nil => rfl
  | cons e es ih =>
    rw [List.map_cons, upsert, upsert, ih, apply_ite (List.map _)]
    exact if_congr ρ.name_injective.eq_iff rfl rfl

/-- A name is looked up under its new name. -/
theorem get?_relabel (t : Table α) (k : String) :
    (t.relabel ρ g).get? (ρ.name k) = (t.get? k).map g :=
  lookup_map_relabel ρ g t.entries k

/-- Writing into a table commutes with relabelling it. -/
theorem relabel_insert (t : Table α) (k : String) (v : α) :
    (t.insert k v).relabel ρ g = (t.relabel ρ g).insert (ρ.name k) (g v) :=
  ext_entries (upsert_map_relabel ρ g k v t.entries).symm

/-- And so does writing many entries. -/
theorem relabel_insertMany (t : Table α) (bs : List (String × α)) :
    (t.insertMany bs).relabel ρ g =
      (t.relabel ρ g).insertMany (bs.map (Prod.map ρ.name g)) := by
  induction bs generalizing t with
  | nil => rfl
  | cons b bs ih =>
    rw [insertMany_cons, ih, relabel_insert, List.map_cons, insertMany_cons]
    rfl

theorem relabel_ofList (bs : List (String × α)) :
    (ofList bs).relabel ρ g = ofList (bs.map (Prod.map ρ.name g)) :=
  relabel_insertMany ρ g empty bs

end Table

/-! ### Environments and scopes -/

/-- The signature with its classes renamed. -/
def Signature.relabel (sig : Signature) : Signature :=
  ⟨sig.params.map (Ty.relabel ρ), sig.result.relabel ρ⟩

/-- The class with its members and their types renamed. -/
def ClassInfo.relabel (c : ClassInfo) : ClassInfo :=
  ⟨c.fields.relabel ρ (Ty.relabel ρ), c.methods.relabel ρ (Signature.relabel ρ)⟩

/-- The constructor is found, since its name is kept. -/
theorem ClassInfo.constructor?_relabel (c : ClassInfo) :
    (c.relabel ρ).constructor? = c.constructor?.map (Signature.relabel ρ) := by
  have hget := Table.get?_relabel ρ (Signature.relabel ρ) c.methods ClassInfo.initName
  rwa [ρ.name_init] at hget

/-- The environment with all names changed, in the same order. -/
def Env.relabel (env : Env) : Env where
  globals := env.globals.relabel ρ (Ty.relabel ρ)
  functions := env.functions.relabel ρ (Signature.relabel ρ)
  classes := env.classes.relabel ρ (ClassInfo.relabel ρ)

/-- The kind of block, with the result type renamed. -/
def ScopeKind.relabel : ScopeKind → ScopeKind
  | .topLevel => .topLevel
  | .function result => .function (result.relabel ρ)

/-- The scope with its variables and their types renamed. -/
def Scope.relabel (s : Scope) : Scope := ⟨s.kind.relabel ρ, s.vars.relabel ρ (Ty.relabel ρ)⟩

/-- The result of a check with all names and places changed. -/
def Checked.relabel (c : Checked) : Checked where
  program := c.program.relabel ρ (Ty.relabel ρ)
  env := c.env.relabel ρ
  type := c.type.relabel ρ

namespace Scope

theorem isTopLevel_relabel (s : Scope) : (s.relabel ρ).isTopLevel = s.isTopLevel := by
  obtain ⟨kind, vars⟩ := s
  cases kind <;> rfl

/-- A variable is bound under its new name. -/
theorem relabel_bind (s : Scope) (x : String) (t : Ty) :
    (s.bind x t).relabel ρ = (s.relabel ρ).bind (ρ.name x) (t.relabel ρ) := by
  rw [relabel, bind, Table.relabel_insert]
  rfl

theorem relabel_bindMany (s : Scope) (bs : List (String × Ty)) :
    (s.bindMany bs).relabel ρ =
      (s.relabel ρ).bindMany (bs.map (Prod.map ρ.name (Ty.relabel ρ))) := by
  rw [relabel, bindMany, Table.relabel_insertMany]
  rfl

/-- **Resolving commutes with relabelling**, so what is unknown stays unknown. -/
theorem resolve?_relabel (s : Scope) (env : Env) (x : String) :
    (s.relabel ρ).resolve? (env.relabel ρ) (ρ.name x) =
      (s.resolve? env x).map (Ty.relabel ρ) := by
  rw [resolve?, resolve?, relabel, Env.relabel, Table.get?_relabel, Table.get?_relabel]
  cases s.vars.get? x <;> rfl

end Scope

/-! ### Declarations -/

section Declarations

variable (g : α → β)

/-- A variable is bound to its type, both renamed. -/
theorem VarDef.map_binding_relabel (vs : List (VarDef α)) :
    (vs.map (VarDef.relabel ρ g)).map VarDef.binding =
      (vs.map VarDef.binding).map (Prod.map ρ.name (Ty.relabel ρ)) := by
  rw [List.map_map, List.map_map]
  rfl

theorem Binder.map_binding_relabel (bs : List Binder) :
    (bs.map (Binder.relabel ρ)).map Binder.binding =
      (bs.map Binder.binding).map (Prod.map ρ.name (Ty.relabel ρ)) := by
  rw [List.map_map, List.map_map]
  rfl

/-- A signature has no names but those in its types. -/
theorem FunDef.signature_relabel (f : FunDef α) :
    (f.relabel ρ g).signature = f.signature.relabel ρ := by
  have hparams : (f.params.map (Binder.relabel ρ)).map Binder.type =
      (f.params.map Binder.type).map (Ty.relabel ρ) := by
    rw [List.map_map, List.map_map]
    rfl
  rw [FunDef.signature, FunDef.signature, Signature.relabel, ← hparams]
  rfl

theorem FunDef.map_binding_relabel (fs : List (FunDef α)) :
    (fs.map (FunDef.relabel ρ g)).map FunDef.binding =
      (fs.map FunDef.binding).map (Prod.map ρ.name (Signature.relabel ρ)) := by
  rw [List.map_map, List.map_map]
  exact List.map_congr_left fun f _ ↦ congrArg (Prod.mk _) (f.signature_relabel ρ g)

/-- The members of a class are declared under their new names. -/
theorem ClassDef.info_relabel (c : ClassDef α) : (c.relabel ρ g).info = c.info.relabel ρ := by
  rw [ClassDef.info, ClassDef.info, ClassInfo.relabel, Table.relabel_ofList, Table.relabel_ofList,
    ← VarDef.map_binding_relabel ρ g, ← FunDef.map_binding_relabel ρ g]
  rfl

theorem ClassDef.map_binding_relabel (cs : List (ClassDef α)) :
    (cs.map (ClassDef.relabel ρ g)).map ClassDef.binding =
      (cs.map ClassDef.binding).map (Prod.map ρ.name (ClassInfo.relabel ρ)) := by
  rw [List.map_map, List.map_map]
  exact List.map_congr_left fun c _ ↦ congrArg (Prod.mk _) (c.info_relabel ρ g)

/-- **Declarations can be made before or after the names are changed.** -/
theorem Env.declare_relabel (env : Env) (p : Program α) :
    (env.relabel ρ).declare (p.relabel ρ g) = (env.declare p).relabel ρ := by
  have hglobals := Table.relabel_insertMany ρ (Ty.relabel ρ) env.globals (p.vars.map VarDef.binding)
  have hfunctions :=
    Table.relabel_insertMany ρ (Signature.relabel ρ) env.functions (p.funs.map FunDef.binding)
  have hclasses :=
    Table.relabel_insertMany ρ (ClassInfo.relabel ρ) env.classes (p.classes.map ClassDef.binding)
  rw [← VarDef.map_binding_relabel ρ g] at hglobals
  rw [← FunDef.map_binding_relabel ρ g] at hfunctions
  rw [← ClassDef.map_binding_relabel ρ g] at hclasses
  show Env.mk _ _ _ = Env.mk _ _ _
  rw [Env.mk.injEq]
  exact ⟨hglobals.symm, hfunctions.symm, hclasses.symm⟩

/-- The variables of a scope become globals under their new names. -/
theorem Env.promote_relabel (env : Env) (s : Scope) :
    (env.relabel ρ).promote (s.relabel ρ) = (env.promote s).relabel ρ := by
  have hglobals := Table.relabel_insertMany ρ (Ty.relabel ρ) env.globals s.vars.entries
  show Env.mk _ _ _ = Env.mk _ _ _
  rw [Env.mk.injEq]
  exact ⟨hglobals.symm, rfl, rfl⟩

/-- A function starts in the relabelled scope. -/
theorem FunDef.scope_relabel (f : FunDef α) : (f.relabel ρ g).scope = f.scope.relabel ρ := by
  rw [FunDef.scope, FunDef.scope, Scope.relabel_bindMany, List.map_append,
    ← Binder.map_binding_relabel ρ, ← VarDef.map_binding_relabel ρ g]
  rfl

end Declarations

end NominalCheck
