import Mathlib.Data.List.Perm.Basic
import NominalCheck.Proofs.Context.Equivalence

/-!
# The order of declarations does not matter

All declarations of a program are made before any of them is checked, so they may refer to one
another in any order, and functions and classes may be mutually recursive. Where no name is declared
twice, it follows that the declarations can be listed in **any order**: the program checks in one
order exactly if it checks in another, and the results differ in the order of the declarations and
in nothing else.

An order is given by positions: `inOrder order xs` has the members of `xs` in the order in which
`order` lists their positions. So it can be said of a program and of what it comes out as that they
are reordered in the **same** way, although their declarations are different things. Nothing is lost
by it, since every other order of the declarations is given so (`Program.exists_reorder_eq`).

Two facts carry the result. Writes to different names can be made in any order
(`Table.get?_insertMany_of_perm`), so the two declared environments are equivalent; and a list of
definitions is checked member by member (`mapM_inOrder`).
-/

namespace NominalCheck

variable {α β ε : Type}

/-! ### Lists in another order -/

/-- The members of a list in the order in which their positions are listed. -/
def inOrder (order : List Nat) (xs : List α) : List α := order.filterMap (xs[·]?)

/-- A list stands at its positions. -/
theorem forall₂_getElem?_range (xs : List α) :
    List.Forall₂ (fun x i ↦ xs[i]? = some x) xs (List.range xs.length) := by
  rw [List.forall₂_iff_get]
  refine ⟨List.length_range.symm, fun i hi _ ↦ ?_⟩
  simp only [List.get_eq_getElem, List.getElem_range, List.getElem?_eq_getElem hi]

theorem inOrder_eq_of_forall₂ {order : List Nat} {xs ys : List α}
    (h : List.Forall₂ (fun y i ↦ xs[i]? = some y) ys order) : inOrder order xs = ys := by
  induction h with
  | nil => rfl
  | cons hy _ ih =>
    rw [inOrder, List.filterMap_cons_some hy]
    exact congrArg _ ih

theorem inOrder_range (xs : List α) : inOrder (List.range xs.length) xs = xs :=
  inOrder_eq_of_forall₂ (forall₂_getElem?_range xs)

theorem inOrder_perm {order : List Nat} {xs : List α} (h : order.Perm (List.range xs.length)) :
    (inOrder order xs).Perm xs := by
  have hperm : (inOrder order xs).Perm (inOrder (List.range xs.length) xs) := h.filterMap (xs[·]?)
  rwa [inOrder_range] at hperm

/-- Every other order of a list is given by an order of its positions. -/
theorem exists_inOrder_eq_of_perm {xs ys : List α} (h : ys.Perm xs) :
    ∃ order, order.Perm (List.range xs.length) ∧ inOrder order xs = ys := by
  obtain ⟨order, hys, hperm⟩ := List.perm_comp_forall₂ h (forall₂_getElem?_range xs)
  exact ⟨order, hperm, inOrder_eq_of_forall₂ hys⟩

/-- Lists that are related member by member still are when both are reordered. -/
theorem forall₂_inOrder {R : α → β → Prop} {xs : List α} {ys : List β} (h : List.Forall₂ R xs ys)
    (order : List Nat) : List.Forall₂ R (inOrder order xs) (inOrder order ys) := by
  induction order with
  | nil => exact .nil
  | cons i order ih =>
    rw [inOrder, inOrder]
    by_cases hi : i < xs.length
    · have hi' : i < ys.length := h.length_eq ▸ hi
      rw [List.filterMap_cons_some (List.getElem?_eq_getElem hi),
        List.filterMap_cons_some (List.getElem?_eq_getElem hi')]
      exact .cons (h.get hi hi') ih
    · have hi' : ys.length ≤ i := h.length_eq ▸ Nat.le_of_not_lt hi
      rw [List.filterMap_cons_none (List.getElem?_eq_none (Nat.le_of_not_lt hi)),
        List.filterMap_cons_none (List.getElem?_eq_none hi')]
      exact ih

/-- A list that checks does so in any order, with the results in that order. -/
theorem mapM_inOrder {f : α → Except ε β} {xs : List α} {ys : List β} (h : xs.mapM f = .ok ys)
    (order : List Nat) : (inOrder order xs).mapM f = .ok (inOrder order ys) :=
  mapM_eq_ok_iff.2 (forall₂_inOrder (mapM_eq_ok_iff.1 h) order)

/-- Whether **all** checks of a list succeed does not depend on their order. Which one fails first
does. -/
theorem exists_mapM_eq_ok_iff_of_perm {f : α → Except ε β} {xs ys : List α} (h : xs.Perm ys) :
    (∃ zs, xs.mapM f = .ok zs) ↔ ∃ zs, ys.mapM f = .ok zs := by
  rw [exists_mapM_eq_ok_iff, exists_mapM_eq_ok_iff]
  exact forall_congr' fun a ↦ by rw [h.mem_iff]

/-! ### Tables -/

namespace Table

/-- Writes to different names can be made in any order. -/
theorem get?_insertMany_of_perm (t : Table α) {bs cs : List (String × α)} (h : bs.Perm cs)
    (hbs : (bs.map Prod.fst).Nodup) (k : String) :
    (t.insertMany bs).get? k = (t.insertMany cs).get? k := by
  have hbs' : (bs.reverse.map Prod.fst).Nodup :=
    ((List.reverse_perm bs).map Prod.fst).nodup_iff.2 hbs
  have hcs' : (cs.reverse.map Prod.fst).Nodup :=
    (((List.reverse_perm cs).trans h.symm).map Prod.fst).nodup_iff.2 hbs
  have hlookup : bs.reverse.lookup k = cs.reverse.lookup k := by
    apply Option.ext
    intro v
    rw [lookup_eq_some_iff_mem hbs', lookup_eq_some_iff_mem hcs', List.mem_reverse,
      List.mem_reverse, h.mem_iff]
  rw [get?_insertMany, get?_insertMany, hlookup]

/-- If no name is written twice, the order of writing decides about the order of the entries only. -/
theorem sameEntries_insertMany_of_perm {R : α → α → Prop} (hR : ∀ a, R a a) (t : Table α)
    {bs cs : List (String × α)} (h : bs.Perm cs) (hbs : (bs.map Prod.fst).Nodup) :
    (t.insertMany bs).SameEntries R (t.insertMany cs) := by
  intro k
  rw [← get?_insertMany_of_perm t h hbs]
  exact SameEntries.rfl hR (t.insertMany bs) k

end Table

/-! ### Programs -/

/-- An order for the declarations of each kind, by their positions. -/
structure DeclOrder where
  /-- The order of the variables. -/
  vars : List Nat
  /-- The order of the functions. -/
  funs : List Nat
  /-- The order of the classes. -/
  classes : List Nat

namespace Program

/-- The program with its declarations in the given order, and with the same statements. -/
def reorder (p : Program α) (order : DeclOrder) : Program α where
  vars := inOrder order.vars p.vars
  funs := inOrder order.funs p.funs
  classes := inOrder order.classes p.classes
  stmts := p.stmts
  span := p.span

/-- Every declaration has its position in the order exactly once. -/
structure PermutedBy (p : Program α) (order : DeclOrder) : Prop where
  vars : order.vars.Perm (List.range p.vars.length)
  funs : order.funs.Perm (List.range p.funs.length)
  classes : order.classes.Perm (List.range p.classes.length)

/-- No variable, no function and no class is declared twice. The three kinds may share names. -/
structure DeclaresOnce (p : Program α) : Prop where
  vars : (p.vars.map fun v ↦ v.binder.name.name).Nodup
  funs : (p.funs.map fun f ↦ f.name.name).Nodup
  classes : (p.classes.map fun c ↦ c.name.name).Nodup

/-- Whatever program has the same declarations in other orders is the program reordered. -/
theorem exists_reorder_eq {p p' : Program α} (hvars : p'.vars.Perm p.vars)
    (hfuns : p'.funs.Perm p.funs) (hclasses : p'.classes.Perm p.classes)
    (hstmts : p'.stmts = p.stmts) (hspan : p'.span = p.span) :
    ∃ order, p.PermutedBy order ∧ p.reorder order = p' := by
  obtain ⟨vars, hvars, hvars'⟩ := exists_inOrder_eq_of_perm hvars
  obtain ⟨funs, hfuns, hfuns'⟩ := exists_inOrder_eq_of_perm hfuns
  obtain ⟨classes, hclasses, hclasses'⟩ := exists_inOrder_eq_of_perm hclasses
  refine ⟨⟨vars, funs, classes⟩, ⟨hvars, hfuns, hclasses⟩, ?_⟩
  rw [reorder, hvars', hfuns', hclasses', ← hstmts, ← hspan]

end Program

variable {cfg : Config} {env : Env} {p : Program Unit} {order : DeclOrder}

/-- The declarations make equivalent environments in any order. -/
theorem Env.declare_equiv_reorder (env : Env) (hperm : p.PermutedBy order)
    (honce : p.DeclaresOnce) : (env.declare p).Equiv (env.declare (p.reorder order)) := by
  have hvars : ((p.vars.map VarDef.binding).map Prod.fst).Nodup := by
    rw [List.map_map]
    exact honce.vars
  have hfuns : ((p.funs.map FunDef.binding).map Prod.fst).Nodup := by
    rw [List.map_map]
    exact honce.funs
  have hclasses : ((p.classes.map ClassDef.binding).map Prod.fst).Nodup := by
    rw [List.map_map]
    exact honce.classes
  refine ⟨?_, ?_, ?_⟩
  · exact Table.sameEntries_insertMany_of_perm (fun _ ↦ rfl) env.globals
      ((inOrder_perm hperm.vars).symm.map VarDef.binding) hvars
  · exact Table.sameEntries_insertMany_of_perm (fun _ ↦ rfl) env.functions
      ((inOrder_perm hperm.funs).symm.map FunDef.binding) hfuns
  · exact Table.sameEntries_insertMany_of_perm ClassInfo.Equiv.refl env.classes
      ((inOrder_perm hperm.classes).symm.map ClassDef.binding) hclasses

/-- The definitions of a reordered program check to what they checked to, reordered. -/
theorem checkDefs_reorder {defs : Program Ty} (h : checkDefs cfg env p = .ok defs)
    (order : DeclOrder) : checkDefs cfg env (p.reorder order) = .ok (defs.reorder order) := by
  simp only [checkDefs, bind_eq_ok_iff, pure_eq_ok_iff] at h ⊢
  obtain ⟨vars, hvars, funs, hfuns, classes, hclasses, rfl⟩ := h
  exact ⟨_, mapM_inOrder hvars order.vars, _, mapM_inOrder hfuns order.funs, _,
    mapM_inOrder hclasses order.classes, rfl⟩

/-- So the declarations check in one order exactly if they check in the other. -/
theorem exists_checkDefs_reorder_iff (hperm : p.PermutedBy order) :
    (∃ defs, checkDefs cfg env (p.reorder order) = .ok defs) ↔
      ∃ defs, checkDefs cfg env p = .ok defs := by
  refine ⟨?_, fun ⟨_, h⟩ ↦ ⟨_, checkDefs_reorder h order⟩⟩
  -- It is enough that every definition checks, so this way round needs no inverse of the order.
  simp only [checkDefs, bind_eq_ok_iff, pure_eq_ok_iff]
  rintro ⟨_, vars, hvars, funs, hfuns, classes, hclasses, -⟩
  obtain ⟨vars', hvars'⟩ :=
    (exists_mapM_eq_ok_iff_of_perm (inOrder_perm hperm.vars)).1 ⟨vars, hvars⟩
  obtain ⟨funs', hfuns'⟩ :=
    (exists_mapM_eq_ok_iff_of_perm (inOrder_perm hperm.funs)).1 ⟨funs, hfuns⟩
  obtain ⟨classes', hclasses'⟩ :=
    (exists_mapM_eq_ok_iff_of_perm (inOrder_perm hperm.classes)).1 ⟨classes, hclasses⟩
  exact ⟨_, vars', hvars', funs', hfuns', classes', hclasses', rfl⟩

/-- A reordered program is checked in the environment of the program itself, up to the environment
that it leaves. -/
theorem checkProgram_reorder_eq_bind (hperm : p.PermutedBy order) (honce : p.DeclaresOnce) :
    checkProgram cfg env (p.reorder order) = (do
      let defs ← checkDefs cfg (env.declare p) (p.reorder order)
      let r ← checkBody cfg (env.declare p) .topLevel p.stmts
      pure (.ofStmts defs (env.declare (p.reorder order)) r.1 r.2)) := by
  have hequiv : (env.declare p).Equiv (env.declare (p.reorder order)) :=
    env.declare_equiv_reorder hperm honce
  rw [checkProgram_eq_bind, checkDefs_congr hequiv, checkBody_congr hequiv]
  rfl

/-- **The order of declarations does not matter.** Where no name is declared twice, a program checks
in one order of its declarations exactly if it checks in another. The annotated declarations are
reordered in the same way as the declarations, the annotated statements and the type are the same,
and the environments that are left declare the same things. -/
theorem checkProgram_reorder (cfg : Config) (env : Env) {p : Program Unit} {order : DeclOrder}
    (hperm : p.PermutedBy order) (honce : p.DeclaresOnce) :
    ((∃ c, checkProgram cfg env p = .ok c) ↔
      ∃ c, checkProgram cfg env (p.reorder order) = .ok c) ∧
    ∀ c c', checkProgram cfg env p = .ok c → checkProgram cfg env (p.reorder order) = .ok c' →
      c'.program = c.program.reorder order ∧ c'.type = c.type ∧ c.env.Equiv c'.env := by
  rw [checkProgram_reorder_eq_bind hperm honce, checkProgram_eq_bind]
  simp only [bind_eq_ok_iff, pure_eq_ok_iff]
  refine ⟨⟨?_, ?_⟩, ?_⟩
  · rintro ⟨c, defs, hdefs, r, hr, rfl⟩
    exact ⟨_, defs.reorder order, checkDefs_reorder hdefs order, r, hr, rfl⟩
  · rintro ⟨c, defs, hdefs, r, hr, rfl⟩
    obtain ⟨defs', hdefs'⟩ := (exists_checkDefs_reorder_iff hperm).1 ⟨defs, hdefs⟩
    exact ⟨_, defs', hdefs', r, hr, rfl⟩
  · rintro c c' ⟨defs, hdefs, r, hr, rfl⟩ ⟨defs', hdefs', r', hr', rfl⟩
    obtain rfl : r = r' := Except.ok.inj (hr.symm.trans hr')
    obtain rfl : defs.reorder order = defs' :=
      Except.ok.inj ((checkDefs_reorder hdefs order).symm.trans hdefs')
    exact ⟨rfl, rfl, (env.declare_equiv_reorder hperm honce).promote r.2⟩

/-- A chunk in which two functions call each other, one of them constructs an object of the class,
and the class has a method that calls the other. -/
def recursiveChunk : Program Unit :=
  let m : Mark Unit := ⟨⟨0, 1⟩, ()⟩
  let ident (name : String) : Ident := ⟨name, m.span⟩
  let number (i : Int) : Expr Unit := .literal m (.int i)
  let fn (name : String) (params : List Binder) (body : List (Stmt Unit)) : FunDef Unit :=
    ⟨ident name, params, .int, [], body, m⟩
  { vars := [⟨⟨ident "x", .int, m.span⟩, .int 1, m.span, m⟩,
      ⟨⟨ident "a", .cls "A", m.span⟩, .none, m.span, m⟩]
    funs := [fn "f" [] [.ret m (some (.call m (ident "g") []))],
      fn "g" [] [.assign m (ident "a") (.call m (ident "A") []),
        .ret m (some (.call m (ident "f") []))]]
    classes := [⟨ident "A", [⟨⟨ident "next", .cls "B", m.span⟩, .none, m.span, m⟩],
        [fn "size" [⟨ident "self", .cls "A", m.span⟩] [.ret m (some (.call m (ident "f") []))]], m⟩,
      ⟨ident "B", [⟨⟨ident "n", .int, m.span⟩, .int 0, m.span, m⟩], [], m⟩]
    stmts := [.assign m (ident "y") (.method m (.var m "a") (ident "size") []),
      .setField m (.field m (.var m "a") (ident "next")) (ident "n") (number 2)]
    span := m.span }

/-- All declarations of the chunk are reversed. The environments are **not** the same then, since
their globals are in another order, but they are equivalent. -/
theorem checkProgram_reorder_recursiveChunk :
    let order : DeclOrder := ⟨[1, 0], [1, 0], [1, 0]⟩
    recursiveChunk.PermutedBy order ∧ recursiveChunk.DeclaresOnce ∧
      ∃ c c', checkProgram .strict .builtins recursiveChunk = .ok c ∧
        checkProgram .strict .builtins (recursiveChunk.reorder order) = .ok c' ∧
        c'.program = c.program.reorder order ∧ c.env ≠ c'.env ∧ c.env.Equiv c'.env := by
  intro order
  have hperm : recursiveChunk.PermutedBy order := ⟨by decide, by decide, by decide⟩
  have honce : recursiveChunk.DeclaresOnce := ⟨by decide, by decide, by decide⟩
  have hcheck : ∃ c, checkProgram .strict .builtins recursiveChunk = .ok c ∧
      c.env.globals.keys = ["x", "a", "y"] := ⟨_, rfl, rfl⟩
  have hcheck' : ∃ c, checkProgram .strict .builtins (recursiveChunk.reorder order) = .ok c ∧
      c.env.globals.keys = ["a", "x", "y"] := ⟨_, rfl, rfl⟩
  obtain ⟨c, hc, hkeys⟩ := hcheck
  obtain ⟨c', hc', hkeys'⟩ := hcheck'
  obtain ⟨hprogram, -, hequiv⟩ := (checkProgram_reorder .strict .builtins hperm honce).2 c c' hc hc'
  refine ⟨hperm, honce, c, c', hc, hc', hprogram, fun henv ↦ ?_, hequiv⟩
  rw [henv, hkeys'] at hkeys
  exact absurd hkeys (by decide)

end NominalCheck
