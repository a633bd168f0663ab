import NominalCheck.Proofs.Context.Parts

/-!
# What a statement does to its scope

A statement is checked in a scope that is shared by all blocks around it, and what a failed check has
bound is not taken back. `checkStmt_frame` says what can be relied on all the same, **whether the check
succeeds or not**: the scope stays of its kind, its bindings stay where they are, and behind them come
bindings of new names that the statement assigns to. In a function nothing is bound at all.

Where the check succeeds, no target is left over. In the scope at the end every assignment of the
statement checks once more, wherever it stands, and the target of an assignment that checks is known.
-/

namespace NominalCheck

open CheckM

variable {cfg : Config} {env : Env} {s s' : Scope}

/-! ### Targets -/

/-- The target of an assignment that checks resolves afterwards. -/
theorem AssignTyped.isSome_resolve? {x : String} {t : Ty} (h : AssignTyped env s x t s') :
    (s'.resolve? env x).isSome := by
  obtain ⟨bound, hx, -, rfl⟩ | ⟨-, -, rfl⟩ := h
  · rw [hx]
    rfl
  · rw [Scope.resolve?_bind, if_pos rfl]
    rfl

/-- After a check that succeeds, every name that is assigned to resolves. -/
theorem isSome_resolve?_of_checkStmt {x : Stmt Unit} {x' : Stmt Ty}
    (h : runIn s (checkStmt cfg env x) = (.ok x', s')) {name : String}
    (hname : name ∈ x.assignedNames) : (s'.resolve? env name).isSome := by
  obtain ⟨m, y, e, hnode, rfl⟩ := Stmt.mem_assignedNames_iff.1 hname
  -- The whole statement checks again where it has ended, so each of its nodes does.
  have hagain : runIn s' (checkStmt cfg env x) = (.ok x', s') := checkStmt_of_covers (.refl env s') h
  have hnodes : List.Forall₂ (fun y' y ↦ runIn s' (checkStmt cfg env y) = (.ok y', s'))
      x'.nodes x.nodes := (forall₂_nodes_of_checkStmt hagain).flip
  obtain ⟨y', -, hy⟩ := exists_mem_of_forall₂ hnodes hnode
  obtain ⟨e', -, hassign, -⟩ := checkStmt_assign_eq_ok_iff.1 hy
  exact hassign.isSome_resolve?

/-! ### The frame -/

/-- **A statement keeps its scope and adds to it only new names that it assigns to**, also when its
check fails. In a function it adds nothing, and after a check that succeeds all its targets resolve. -/
theorem checkStmt_frame {x : Stmt Unit} {r : Except TypeError (Stmt Ty)}
    (hrun : runIn s (checkStmt cfg env x) = (r, s')) :
    s'.expectedResult = s.expectedResult ∧ s'.isTopLevel = s.isTopLevel ∧
      (∃ fresh, s'.vars.entries = s.vars.entries ++ fresh ∧ (fresh.map Prod.fst).Nodup ∧
        (∀ b ∈ fresh, b.1 ∉ s.vars ∧ b.1 ∉ env.globals ∧ b.1 ∈ x.assignedNames) ∧
        (s.isTopLevel = false → fresh = [])) ∧
      ∀ x', r = .ok x' → ∀ name ∈ x.assignedNames, (s'.resolve? env name).isSome := by
  obtain ⟨r', fresh, hgrows, hfresh, hnames⟩ := checkStmt_grows x s
  obtain ⟨rfl, rfl⟩ := Prod.mk.inj (hgrows.symm.trans hrun)
  refine ⟨rfl, rfl, ⟨fresh, hfresh.entries_bindMany, hfresh.nodup_names, ?_, ?_⟩, ?_⟩
  · intro b hb
    obtain ⟨hvars, hglobals⟩ := Scope.notMem_of_resolve?_eq_none (hfresh.resolve?_eq_none hb)
    exact ⟨hvars, hglobals, hnames (List.mem_map_of_mem hb)⟩
  · intro hlocal
    cases hkind : s.kind with
    | topLevel => cases hlocal.symm.trans (Scope.isTopLevel_iff.2 hkind)
    | function result => exact hfresh.eq_nil_of_function hkind
  · rintro x' rfl name hname
    exact isSome_resolve?_of_checkStmt hrun hname

/-- A loop that assigns to `g`, to `b`, `a` and `v` in the blocks of a choice, and at its end to `c` what
stands in the given variable. -/
def assigningLoop (last : String) : Stmt Unit :=
  let m : Mark Unit := ⟨⟨0, 1⟩, ()⟩
  let set (name : String) (value : Expr Unit) : Stmt Unit := .assign m ⟨name, m.span⟩ value
  .loop m (.literal m (.bool true))
    [set "g" (.literal m (.int 1)),
      .ifElse m (.var m "v")
        [set "b" (.var m "v")]
        [set "a" (.var m "g"), set "b" (.literal m (.bool false)), set "v" (.var m "b")],
      set "c" (.var m last)]

/-- The loop fails at its last statement and keeps what it introduced before; it succeeds if that
statement reads a known name, and then all of its targets resolve; and in a function it introduces
nothing. -/
theorem checkStmt_frame_assigningLoop :
    let env := Env.builtins.withGlobal "g" .int
    (∃ fault s', runIn (Scope.topLevel.bind "v" .bool)
        (checkStmt .strict env (assigningLoop "w")) = (.error fault, s') ∧
      s'.isTopLevel = true ∧ ∃ fresh, s'.vars.entries = ("v", .bool) :: fresh ∧
        fresh = [("b", .bool), ("a", .int)] ∧ (fresh.map Prod.fst).Nodup ∧
        ∀ b ∈ fresh, b.1 ∉ (Scope.topLevel.bind "v" .bool).vars ∧ b.1 ∉ env.globals ∧
          b.1 ∈ (assigningLoop "w").assignedNames) ∧
    (∃ x' s', runIn (Scope.topLevel.bind "v" .bool)
        (checkStmt .strict env (assigningLoop "a")) = (.ok x', s') ∧
      (assigningLoop "a").assignedNames = ["g", "b", "a", "b", "v", "c"] ∧
      ∀ name ∈ (assigningLoop "a").assignedNames, (s'.resolve? env name).isSome) ∧
    ∃ fault s', runIn ((Scope.function .int).bind "v" .bool)
        (checkStmt .strict env (assigningLoop "a")) = (.error fault, s') ∧
      s'.expectedResult = .int ∧ s'.isTopLevel = false ∧ s'.vars.entries = [("v", .bool)] := by
  intro env
  refine ⟨?_, ?_, ?_⟩
  · have hrun : ∃ fault s', runIn (Scope.topLevel.bind "v" .bool)
        (checkStmt .strict env (assigningLoop "w")) = (.error fault, s') ∧
        s'.vars.entries = [("v", .bool), ("b", .bool), ("a", .int)] := ⟨_, _, rfl, rfl⟩
    obtain ⟨fault, s', hrun, hentries⟩ := hrun
    obtain ⟨-, htop, ⟨fresh, hfresh, hnodup, hnew, -⟩, -⟩ := checkStmt_frame hrun
    have heq : fresh = [("b", .bool), ("a", .int)] :=
      List.append_cancel_left (hfresh.symm.trans hentries)
    exact ⟨fault, s', hrun, htop, fresh, hfresh, heq, hnodup, hnew⟩
  · have hrun : ∃ x' s', runIn (Scope.topLevel.bind "v" .bool)
        (checkStmt .strict env (assigningLoop "a")) = (.ok x', s') := ⟨_, _, rfl⟩
    obtain ⟨x', s', hrun⟩ := hrun
    exact ⟨x', s', hrun, rfl, (checkStmt_frame hrun).2.2.2 x' rfl⟩
  · have hrun : ∃ fault s', runIn ((Scope.function .int).bind "v" .bool)
        (checkStmt .strict env (assigningLoop "a")) = (.error fault, s') := ⟨_, _, rfl⟩
    obtain ⟨fault, s', hrun⟩ := hrun
    obtain ⟨hresult, htop, ⟨fresh, hfresh, -, -, hnil⟩, -⟩ := checkStmt_frame hrun
    obtain rfl := hnil rfl
    exact ⟨fault, s', hrun, hresult, htop, hfresh⟩

end NominalCheck
