import Mathlib.Data.String.Basic
import NominalCheck.Diagnostic.Registry
import NominalCheck.Proofs.Similar
import NominalCheck.TypeError

/-!
# What a registry knows

A registry is reached from the empty or the standard one by registering codes. What it knows then depends
on the registrations alone (`Records`): a code that belongs to a category is known with the description
that it was registered with **last**, other codes are not known, and every known code is listed in exactly
one category, in ascending order.

A single registration is seen at its own code and nowhere else (`get?_register`), which says what lookups
give after a whole run. The rest every registry has by what it is: its codes ascend, so the entries are
what lookups **find** (`mem_infos_iff`), and each entry has the category that its code belongs to, so the
lists of the categories can be read off lookups, too (`mem_inCategory_iff`).
-/

namespace NominalCheck

/-- What a registration says about its code, if that belongs to a category. -/
def CodeInfo.ofCode? (code description : String) : Option CodeInfo :=
  (Category.ofCode? code).map fun category ↦ ⟨code, category, description⟩

/-- A code has an entry if its shape gives it a category. -/
theorem CodeInfo.ofCode?_eq_some_iff {code description : String} {info : CodeInfo} :
    ofCode? code description = some info ↔
      info.code = code ∧ info.description = description ∧
        Category.ofCode? code = some info.category := by
  rw [ofCode?, Option.map_eq_some_iff]
  constructor
  · rintro ⟨category, hcategory, rfl⟩
    exact ⟨rfl, rfl, hcategory⟩
  · rintro ⟨rfl, rfl, hcategory⟩
    exact ⟨info.category, hcategory, rfl⟩

/-- The registrations that are accepted: those of codes that belong to a category. -/
def acceptedCodes (calls : List (String × String)) : List (String × String) :=
  calls.filter fun call ↦ (Category.ofCode? call.1).isSome

/-- Whether a registration is accepted depends on its code, so for a code all or none of them are. -/
theorem lookup_acceptedCodes (calls : List (String × String)) (code : String) :
    (acceptedCodes calls).lookup code =
      if (Category.ofCode? code).isSome then calls.lookup code else none := by
  induction calls with
  | nil => simp [acceptedCodes]
  | cons call calls ih =>
    obtain ⟨c, d⟩ := call
    rw [acceptedCodes, List.filter_cons, Table.lookup_cons_ite]
    by_cases hcode : code = c
    · subst hcode
      cases haccepted : (Category.ofCode? code).isSome with
      | true => simp
      | false =>
        simp only [haccepted, Bool.false_eq_true, if_false] at ih ⊢
        exact ih
    · rw [if_neg hcode, ← ih]
      split
      · rw [Table.lookup_cons_ite, if_neg hcode]
        rfl
      · rfl

namespace Registry

/-! ### One registration -/

theorem find?_code_cons (info : CodeInfo) (infos : List CodeInfo) (code : String) :
    (info :: infos).find? (fun i ↦ i.code = code) =
      if info.code = code then some info else infos.find? fun i ↦ i.code = code := by
  by_cases h : info.code = code <;> simp [h]

/-- An entry that is put in is found under its code, and it replaces no other code. -/
theorem find?_insertOrdered (info : CodeInfo) (infos : List CodeInfo) (code : String) :
    (insertOrdered (compareOn CodeInfo.code) info infos).find? (fun i ↦ i.code = code) =
      if info.code = code then some info else infos.find? fun i ↦ i.code = code := by
  induction infos with
  | nil => exact find?_code_cons info [] code
  | cons other infos ih =>
    rw [insertOrdered]
    split
    case h_1 => exact find?_code_cons info (other :: infos) code
    case h_2 heq =>
      have hsame : info.code = other.code := Std.LawfulEqOrd.eq_of_compare heq
      rw [find?_code_cons, find?_code_cons, ← hsame]
      split <;> rfl
    case h_3 hgt =>
      have hne : info.code ≠ other.code := by
        intro hsame
        rw [compareOn, hsame, Std.ReflOrd.compare_self] at hgt
        cases hgt
      rw [find?_code_cons, find?_code_cons, ih]
      by_cases hother : other.code = code
      · rw [if_pos hother, if_pos hother, if_neg (hother ▸ hne)]
      · rw [if_neg hother, if_neg hother]

/-- An entry that is put in is found under its code, and all other codes as before. -/
theorem get?_insert (r : Registry) {info : CodeInfo}
    (h : Category.ofCode? info.code = some info.category) (code : String) :
    (r.insert info h).get? code = if info.code = code then some info else r.get? code :=
  find?_insertOrdered info r.infos code

/-- A registration is seen at its own code and nowhere else, and only if it is accepted. -/
theorem get?_register (r : Registry) (code description k : String) :
    (r.register code description).get? k =
      (if code = k then CodeInfo.ofCode? code description else none).or (r.get? k) := by
  rw [register, CodeInfo.ofCode?]
  cases hcategory : Category.ofCode? code with
  | none => simp [register?_of_none r hcategory]
  | some category =>
    rw [register?_of_some r hcategory, Option.getD_some, get?_insert]
    by_cases hk : code = k <;> simp [hk]

/-- A registration gives a registry if and only if its code belongs to a category. -/
theorem isSome_register? (r : Registry) (code description : String) :
    (r.register? code description).isSome = (Category.ofCode? code).isSome := by
  cases hcategory : Category.ofCode? code with
  | none =>
    rw [register?_of_none r hcategory]
    rfl
  | some category =>
    rw [register?_of_some r hcategory]
    rfl

/-! ### Many registrations -/

theorem registerAll_append (r : Registry) (calls more : List (String × String)) :
    r.registerAll (calls ++ more) = (r.registerAll calls).registerAll more :=
  List.foldl_append

/-- **The last accepted registration decides**, and the registry at the start where there is none. -/
theorem get?_registerAll (r : Registry) (calls : List (String × String)) (code : String) :
    (r.registerAll calls).get? code =
      (((acceptedCodes calls).reverse.lookup code).bind (CodeInfo.ofCode? code)).or (r.get? code) := by
  rw [acceptedCodes, ← List.filter_reverse, ← acceptedCodes, lookup_acceptedCodes]
  induction calls generalizing r with
  | nil => simp [registerAll]
  | cons call calls ih =>
    obtain ⟨c, d⟩ := call
    show ((r.register c d).registerAll calls).get? code = _
    rw [ih, get?_register, List.reverse_cons, List.lookup_append, Table.lookup_cons_ite]
    by_cases hc : c = code
    · subst hc
      cases hcategory : Category.ofCode? c with
      | none => simp [CodeInfo.ofCode?, hcategory]
      | some category => cases calls.reverse.lookup c <;> simp [CodeInfo.ofCode?, hcategory]
    · simp [hc, Ne.symm hc]

/-! ### Entries and lookups -/

variable (r : Registry)

/-- No code stands twice, and smaller codes come first. -/
theorem pairwise_codes : (r.infos.map CodeInfo.code).Pairwise (· < ·) :=
  List.pairwise_map.2 (r.ascends.imp compare_lt_iff_lt.1)

/-- The entries are what lookups find. -/
theorem mem_infos_iff {info : CodeInfo} : info ∈ r.infos ↔ r.get? info.code = some info := by
  constructor
  · intro hinfo
    have hsome : (r.get? info.code).isSome :=
      List.find?_isSome.2 ⟨info, hinfo, decide_eq_true rfl⟩
    obtain ⟨found, hfound⟩ := Option.isSome_iff_exists.1 hsome
    -- No code has two entries, so the one that is found can only be this one.
    have hnodup : (r.infos.map CodeInfo.code).Nodup := r.pairwise_codes.imp ne_of_lt
    have hcode : found.code = info.code := by simpa using List.find?_some hfound
    rw [hfound, List.inj_on_of_nodup_map hnodup (List.mem_of_find?_eq_some hfound) hinfo hcode]
  · exact List.mem_of_find?_eq_some

/-- A category lists the entries whose codes belong to it. -/
theorem mem_inCategory_iff {info : CodeInfo} {category : Category} :
    info ∈ r.inCategory category ↔
      r.get? info.code = some info ∧ Category.ofCode? info.code = some category := by
  rw [inCategory, List.mem_filter, decide_eq_true_iff, r.mem_infos_iff]
  refine and_congr_right fun hinfo ↦ ?_
  rw [r.category_eq info (r.mem_infos_iff.2 hinfo), Option.some_inj]

/-- The lists of the categories have each entry once. -/
theorem get?_eq_some_self_iff {info : CodeInfo} :
    r.get? info.code = some info ↔ ∃! category, info ∈ r.inCategory category := by
  simp only [r.mem_inCategory_iff]
  constructor
  · intro hinfo
    have hcategory := r.category_eq info (r.mem_infos_iff.2 hinfo)
    exact ⟨info.category, ⟨hinfo, hcategory⟩,
      fun _ hother ↦ Option.some.inj (hother.2.symm.trans hcategory)⟩
  · exact fun ⟨_, hcategory, _⟩ ↦ hcategory.1

/-! ### What is known -/

/-- The registry knows what the given registrations say, and nothing else. -/
structure Records (r : Registry) (calls : List (String × String)) : Prop where
  /-- A code has the description that it was last accepted with and the category that it belongs to. -/
  get?_eq_some_iff : ∀ code info, r.get? code = some info ↔ info.code = code ∧
    (acceptedCodes calls).reverse.lookup code = some info.description ∧
      Category.ofCode? code = some info.category
  /-- A category lists the accepted codes that belong to it. -/
  mem_codes_iff : ∀ category code, code ∈ (r.inCategory category).map CodeInfo.code ↔
    code ∈ (acceptedCodes calls).map Prod.fst ∧ Category.ofCode? code = some category
  /-- A category lists its codes in ascending order. -/
  pairwise_codes : ∀ category, ((r.inCategory category).map CodeInfo.code).Pairwise (· < ·)
  /-- What is known is listed in exactly one category. -/
  get?_eq_some_self_iff : ∀ info, r.get? info.code = some info ↔
    ∃! category, info ∈ r.inCategory category

theorem exists_lookup_reverse_iff {calls : List (String × String)} {code : String} :
    (∃ description, calls.reverse.lookup code = some description) ↔ code ∈ calls.map Prod.fst := by
  rw [← Option.isSome_iff_exists, List.lookup_isSome_iff, List.mem_map]
  simp only [List.mem_reverse, beq_iff_eq, @eq_comm _ code]

/-- What lookups give decides what a registry records. -/
theorem records_of_get? {calls : List (String × String)}
    (hget : ∀ code, r.get? code =
      ((acceptedCodes calls).reverse.lookup code).bind (CodeInfo.ofCode? code)) : r.Records calls := by
  have hknown : ∀ code info, r.get? code = some info ↔ info.code = code ∧
      (acceptedCodes calls).reverse.lookup code = some info.description ∧
        Category.ofCode? code = some info.category := by
    intro code info
    rw [hget, Option.bind_eq_some_iff]
    simp only [CodeInfo.ofCode?_eq_some_iff]
    constructor
    · rintro ⟨description, hlast, hcode, rfl, hcategory⟩
      exact ⟨hcode, hlast, hcategory⟩
    · rintro ⟨hcode, hlast, hcategory⟩
      exact ⟨info.description, hlast, hcode, rfl, hcategory⟩
  refine ⟨hknown, fun category code ↦ ?_, fun category ↦ ?_, fun info ↦ r.get?_eq_some_self_iff⟩
  · rw [List.mem_map, ← exists_lookup_reverse_iff]
    constructor
    · rintro ⟨info, hinfo, rfl⟩
      obtain ⟨hget, hcategory⟩ := r.mem_inCategory_iff.1 hinfo
      obtain ⟨-, hlast, -⟩ := (hknown _ _).1 hget
      exact ⟨⟨_, hlast⟩, hcategory⟩
    · rintro ⟨⟨description, hlast⟩, hcategory⟩
      have hget := (hknown code ⟨code, category, description⟩).2 ⟨rfl, hlast, hcategory⟩
      exact ⟨⟨code, category, description⟩, r.mem_inCategory_iff.2 ⟨hget, hcategory⟩, rfl⟩
  · exact r.pairwise_codes.sublist (List.filter_sublist.map _)

/-- A registry that starts from nothing records its registrations. -/
theorem records_registerAll (calls : List (String × String)) :
    (empty.registerAll calls).Records calls := by
  refine records_of_get? _ fun code ↦ ?_
  rw [get?_registerAll]
  exact Option.or_none

/-- The standard registry has the code of every fault. -/
theorem isSome_get?_standard (fault : Fault) : (standard.get? fault.code).isSome := by
  cases fault <;> rfl

/-- **Registries record registrations.** A registration is accepted exactly if its code belongs to a
category, and one that is not accepted leaves the registry as it was. After any registrations that start
from the empty registry, or from the standard one with its codes, the registry knows exactly what the
accepted ones say, the last one of a code counting; and however the standard registry is added to, it has
the code of every fault. -/
theorem registrations_recorded (calls : List (String × String)) :
    (∀ (r : Registry) (code description : String),
      (r.register? code description).isSome = (Category.ofCode? code).isSome ∧
        r.register code description = (r.register? code description).getD r) ∧
    (empty.registerAll calls).Records calls ∧
    (standard.registerAll calls).Records (standardCodes ++ calls) ∧
    ∀ fault : Fault, ((standard.registerAll calls).get? fault.code).isSome := by
  refine ⟨fun r code description ↦ ⟨r.isSome_register? code description, rfl⟩,
    records_registerAll calls, ?_, fun fault ↦ ?_⟩
  · rw [standard, ← registerAll_append]
    exact records_registerAll _
  · rw [get?_registerAll, Option.isSome_or, isSome_get?_standard, Bool.or_true]

end Registry

end NominalCheck
