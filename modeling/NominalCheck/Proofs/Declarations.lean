import NominalCheck.Env
import NominalCheck.Proofs.Table

/-!
# What declarations do to an environment

An environment has a table for each kind of declaration, and the declarations of a program are written
into them one after the other. In each table a name then stands for its **last** declaration, while its
place is that of the **first** one, or the place that it had before the program (`Table.Declared`).

So environments can be extended step by step: the declarations of two programs in turn come to the same
as all of them in one program, and declarations that are made again change nothing. The tables of members
inside a class obey the same two rules, but each class starts from **empty** tables. A class that is
declared again therefore keeps nothing of what it was.
-/

namespace NominalCheck

section Tables

variable {β δ : Type}

/-- The last of some declarations of a name. -/
def lastNamed (name : δ → String) (ds : List δ) (x : String) : Option δ :=
  (ds.filter fun d ↦ name d = x).getLast?

/-- The second table is what becomes of the first by declarations. A name stands for the value of its
last declaration, or else for what it stood for, and the names that are new come last, in the order of
their first declarations. -/
structure Table.Declared (t u : Table β) (name : δ → String) (value : δ → β) (ds : List δ) : Prop where
  get?_eq : ∀ x, u.get? x = ((lastNamed name ds x).map value).or (t.get? x)
  keys_eq : u.keys = t.keys ++ ((ds.map name).filter (· ∉ t)).eraseDups

theorem lookup_map_pair (name : δ → String) (value : δ → β) (ds : List δ) (x : String) :
    (ds.map fun d ↦ (name d, value d)).lookup x = (ds.find? fun d ↦ name d = x).map value := by
  induction ds with
  | nil => rfl
  | cons d ds ih =>
    rw [List.map_cons, Table.lookup_cons_ite, List.find?_cons, ih]
    by_cases h : x = name d
    · simp [h]
    · simp [h, Ne.symm h]

/-- Entries that are written one by one are declared: the last value of a name counts, and its first
place. -/
theorem Table.declared_insertMany (t : Table β) (name : δ → String) (value : δ → β) (ds : List δ) :
    t.Declared (t.insertMany (ds.map fun d ↦ (name d, value d))) name value ds where
  get?_eq x := by
    rw [get?_insertMany, ← List.map_reverse, lookup_map_pair, lastNamed, List.getLast?_filter]
  keys_eq := by
    rw [keys_insertMany, foldl_addName_eq_append, List.map_map]
    rfl

end Tables

variable {α : Type}

/-- The two tables of a class hold the members that it declares and no others. -/
theorem ClassDef.declared_info (c : ClassDef α) :
    Table.empty.Declared c.info.fields (fun v ↦ v.binder.name.name) (fun v ↦ v.binder.type) c.fields ∧
      Table.empty.Declared c.info.methods (fun f ↦ f.name.name)
        (fun f ↦ ⟨f.params.map Binder.type, f.result⟩) c.methods :=
  ⟨Table.declared_insertMany _ _ _ _, Table.declared_insertMany _ _ _ _⟩

namespace Env

/-- **Declaring is an action**: two programs in a row are declared like one program with the
declarations of both. -/
theorem declare_declare (env : Env) (p q : Program α) (stmts : List (Stmt α)) (span : Span) :
    (env.declare p).declare q =
      env.declare ⟨p.vars ++ q.vars, p.funs ++ q.funs, p.classes ++ q.classes, stmts, span⟩ := by
  simp only [declare, List.map_append, Table.insertMany_append]

/-- Declaring a program for a second time changes nothing. -/
theorem declare_declare_self (env : Env) (p : Program α) :
    (env.declare p).declare p = env.declare p := by
  simp only [declare, Table.insertMany_insertMany_self]

/-- **Declarations act on environments.** Two programs declared in turn declare what one program with
the declarations of both does, and a program declared again changes nothing. A global, function or class
stands for its last declaration in the program, or else for what it was before, and new names come last
in the order of their first declarations. A class is declared as a whole: its fields and methods are those
of that one declaration, by the same rules but starting from nothing. -/
theorem declare_acts (env : Env) (p q : Program α) :
    (∀ stmts span, (env.declare p).declare q =
      env.declare ⟨p.vars ++ q.vars, p.funs ++ q.funs, p.classes ++ q.classes, stmts, span⟩) ∧
    (env.declare p).declare p = env.declare p ∧
    env.globals.Declared (env.declare p).globals (fun v ↦ v.binder.name.name) (fun v ↦ v.binder.type)
      p.vars ∧
    env.functions.Declared (env.declare p).functions (fun f ↦ f.name.name)
      (fun f ↦ ⟨f.params.map Binder.type, f.result⟩) p.funs ∧
    env.classes.Declared (env.declare p).classes (fun c ↦ c.name.name) ClassDef.info p.classes ∧
    ∀ c : ClassDef α,
      Table.empty.Declared c.info.fields (fun v ↦ v.binder.name.name) (fun v ↦ v.binder.type) c.fields ∧
        Table.empty.Declared c.info.methods (fun f ↦ f.name.name)
          (fun f ↦ ⟨f.params.map Binder.type, f.result⟩) c.methods :=
  ⟨env.declare_declare p q, env.declare_declare_self p, Table.declared_insertMany _ _ _ _,
    Table.declared_insertMany _ _ _ _, Table.declared_insertMany _ _ _ _, ClassDef.declared_info⟩

/-- Names that are declared again keep their places, and the class `A` loses its field `a`. -/
example :
    let m : Mark Unit := ⟨⟨0, 1⟩, ()⟩
    let ident (name : String) : Ident := ⟨name, m.span⟩
    let var (name : String) (type : Ty) : VarDef Unit :=
      ⟨⟨ident name, type, m.span⟩, .none, m.span, m⟩
    let cls (name : String) (fields : List (VarDef Unit)) : ClassDef Unit := ⟨ident name, fields, [], m⟩
    let before : Program Unit :=
      ⟨[var "x" .int], [], [cls "A" [var "a" .int, var "b" .int]], [], m.span⟩
    let after : Program Unit :=
      ⟨[var "y" .int, var "x" .bool, var "y" .none], [],
        [cls "B" [], cls "A" [var "c" .int, var "b" .bool, var "c" .bool]], [], m.span⟩
    let env := (empty.declare before).declare after
    env.globals.entries = [("x", .bool), ("y", .none)] ∧ env.classes.keys = ["A", "B"] ∧
      (env.classes.get? "A").map (fun info ↦ info.fields.entries) =
        some [("c", .bool), ("b", .bool)] := by
  decide

end Env

end NominalCheck
