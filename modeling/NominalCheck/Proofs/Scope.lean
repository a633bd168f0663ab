import NominalCheck.Proofs.Table
import NominalCheck.Scope

/-!
# Bindings in a scope

What many bindings do to a scope, and what becomes of them when the scope is promoted. The variables
of a scope resolve after promotion as they did before, and bindings made in a scope can be promoted
in two steps.
-/

namespace NominalCheck

namespace Scope

theorem isTopLevel_iff {s : Scope} : s.isTopLevel ↔ s.kind = .topLevel := by
  rw [isTopLevel]
  cases s.kind <;> simp

theorem bindMany_append (s : Scope) (bs cs : List (String × Ty)) :
    s.bindMany (bs ++ cs) = (s.bindMany bs).bindMany cs := by
  rw [bindMany, Table.insertMany_append]
  rfl

/-- The last binding of a name decides what it resolves to. -/
theorem resolve?_bindMany (s : Scope) (env : Env) (bs : List (String × Ty)) (x : String) :
    (s.bindMany bs).resolve? env x = (bs.reverse.lookup x).or (s.resolve? env x) := by
  rw [resolve?, bindMany, Table.get?_insertMany, Option.or_assoc]
  rfl

/-- **The visible names are those that resolve**, so no name that is offered could be unknown. -/
theorem mem_visibleNames_iff {s : Scope} {env : Env} {x : String} :
    x ∈ s.visibleNames env ↔ s.resolve? env x ≠ none := by
  rw [ne_eq, resolve?_eq_none_iff, Decidable.not_not]

/-- A name that does not resolve is new to the scope and to the globals. -/
theorem notMem_of_resolve?_eq_none {s : Scope} {env : Env} {x : String}
    (h : s.resolve? env x = none) : x ∉ s.vars ∧ x ∉ env.globals := by
  rw [resolve?, Option.or_eq_none_iff] at h
  exact ⟨Table.get?_eq_none_iff.1 h.1, Table.get?_eq_none_iff.1 h.2⟩

end Scope

namespace Env

@[simp] theorem functions_promote (env : Env) (s : Scope) :
    (env.promote s).functions = env.functions := rfl

@[simp] theorem classes_promote (env : Env) (s : Scope) :
    (env.promote s).classes = env.classes := rfl

/-- The promoted globals answer as the scope did. -/
theorem get?_globals_promote (env : Env) (s : Scope) (x : String) :
    (env.promote s).globals.get? x = s.resolve? env x :=
  Table.get?_insertMany_entries env.globals s.vars x

/-- What is bound after a promotion can be promoted together with what was bound before. -/
theorem promote_bindMany (env : Env) (s : Scope) (bs : List (String × Ty)) :
    env.promote (s.bindMany bs) = (env.promote s).promote (Scope.topLevel.bindMany bs) := by
  have hleft : env.globals.insertMany (s.vars.insertMany bs).entries =
      (env.globals.insertMany s.vars.entries).insertMany bs :=
    Table.insertMany_entries_insertMany env.globals s.vars bs
  have hright : (env.promote s).globals.insertMany (Table.empty.insertMany bs).entries =
      (env.promote s).globals.insertMany bs :=
    Table.insertMany_entries_insertMany (env.promote s).globals .empty bs
  show Env.mk _ _ _ = Env.mk _ _ _
  rw [Env.mk.injEq]
  exact ⟨hleft.trans hright.symm, rfl, rfl⟩

end Env

end NominalCheck
