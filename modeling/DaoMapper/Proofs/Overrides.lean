import DaoMapper.Mapper.Method
import Mathlib.Data.List.Nodup

-- What an accepted list of parameters looks like: every parameter has a role of its
-- own, and the overrides are the names of the parameters that have the roles.
namespace DaoMapper.Mapper

namespace Overrides

variable {o next : Overrides} {p : Parameter}

@[simp] theorem get_set_same (o : Overrides) (role : Role) (name : String) :
    (o.set role name).get role = some name := by
  cases role <;> rfl

theorem get_set_other (o : Overrides) (name : String) (other : wanted ≠ role) :
    (o.set role name).get wanted = o.get wanted := by
  cases role <;> cases wanted <;> first | rfl | exact absurd rfl other

@[simp] theorem get_none (role : Role) : (⟨none, none⟩ : Overrides).get role = none := by
  cases role <;> rfl

theorem mode_simple (o : Overrides) : o.mode = .simple ↔ ∀ role, o.get role = none := by
  obtain ⟨keyspace, table⟩ := o
  constructor
  · intro simple role
    cases keyspace <;> cases table <;> cases role <;> simp_all [mode, get]
  · intro none
    have k : keyspace = .none := none .keyspace
    have t : table = .none := none .table
    subst k t
    rfl

theorem add_ok (added : o.add p = .ok next) :
    ∃ role, p.role = some role ∧ o.get role = none ∧ p.type ∈ roleTypes ∧ next = o.set role p.name := by
  unfold add at added
  cases given : p.role with
  | none => simp [given] at added
  | some role =>
    simp only [given] at added
    split at added
    · cases added
    · rename_i free
      split at added
      · cases added
      · rename_i allowed
        cases added
        exact ⟨role, rfl, by simpa using free, by simpa using allowed, rfl⟩

structure Collected (o : Overrides) (parameters : List Parameter) (next : Overrides) : Prop where
  roles : ∀ p ∈ parameters, ∃ role, p.role = some role ∧ o.get role = none
  types : ∀ p ∈ parameters, p.type ∈ roleTypes
  get : ∀ role, next.get role =
    (o.get role).or ((parameters.find? (·.role == some role)).map (·.name))
  distinct : (parameters.map (·.role)).Nodup

theorem Collected.cons (given : p.role = some role) (free : o.get role = none) (allowed : p.type ∈ roleTypes)
    (later : Collected (o.set role p.name) rest next) : Collected o (p :: rest) next := by
  -- A role that is set stays taken, so no later parameter has it.
  have others : ∀ q ∈ rest, q.role ≠ some role := by
    intro q member same
    obtain ⟨r, has, none⟩ := later.roles q member
    obtain rfl : role = r := Option.some.inj (same.symm.trans has)
    simp at none
  exact {
    roles := by
      intro q member
      rcases List.mem_cons.mp member with rfl | old
      · exact ⟨role, given, free⟩
      · obtain ⟨r, has, none⟩ := later.roles q old
        have differs : r ≠ role := fun same => others q old (same ▸ has)
        exact ⟨r, has, by rwa [get_set_other _ _ differs] at none⟩
    types := by
      intro q member
      rcases List.mem_cons.mp member with rfl | old
      · exact allowed
      · exact later.types q old
    get := by
      intro wanted
      rw [later.get wanted]
      by_cases same : wanted = role
      · subst same
        simp [given, free]
      · rw [get_set_other _ _ same, List.find?_cons_of_neg]
        simp [given, Ne.symm same]
    distinct := by
      refine List.nodup_cons.mpr ⟨?_, later.distinct⟩
      intro again
      obtain ⟨q, member, same⟩ := List.mem_map.mp again
      exact others q member (same.trans given) }

theorem collect_ok (collected : o.collect s parameters = .ok next) : Collected o parameters next := by
  induction parameters generalizing o with
  | nil =>
    cases collected
    exact ⟨by simp, by simp, by simp, by simp⟩
  | cons p rest ih =>
    unfold collect at collected
    cases step : o.add p with
    | error cause => simp [step] at collected
    | ok middle =>
      simp only [step] at collected
      obtain ⟨role, given, free, allowed, rfl⟩ := add_ok step
      exact .cons given free allowed (ih collected)

theorem overrides_ok {s : Signature} (accepted : s.overrides = .ok o) :
    Collected ⟨none, none⟩ s.parameters o :=
  collect_ok accepted

theorem overrides_get {s : Signature} (accepted : s.overrides = .ok o) (role : Role) :
    o.get role = (s.parameters.find? (·.role == some role)).map (·.name) := by
  simpa using (overrides_ok accepted).get role

theorem overrides_name {s : Signature} (accepted : s.overrides = .ok o) (member : p ∈ s.parameters) :
    ∃ role, p.role = some role ∧ o.get role = some p.name := by
  have collected := overrides_ok accepted
  obtain ⟨role, has, _⟩ := collected.roles p member
  refine ⟨role, has, ?_⟩
  rw [overrides_get accepted]
  cases found : s.parameters.find? (·.role == some role) with
  | none =>
    have absent := List.find?_eq_none.mp found p member
    simp [has] at absent
  | some q =>
    have same : q.role = p.role := by
      have matched := List.find?_some found
      rw [has]
      simpa using matched
    have inj := List.inj_on_of_nodup_map collected.distinct
    rw [inj (List.mem_of_find?_eq_some found) member same]
    rfl

theorem overrides_declared {s : Signature} (accepted : s.overrides = .ok o) (named : o.get role = some name) :
    name ∈ s.parameters.map (·.name) := by
  rw [overrides_get accepted] at named
  obtain ⟨q, found, rfl⟩ := Option.map_eq_some_iff.mp named
  exact List.mem_map_of_mem (List.mem_of_find?_eq_some found)

theorem mode_of_parameters {s : Signature} (accepted : s.overrides = .ok o) :
    o.mode = .simple ↔ s.parameters = [] := by
  rw [mode_simple]
  constructor
  · intro none
    apply List.eq_nil_iff_forall_not_mem.mpr
    intro p member
    obtain ⟨role, _, named⟩ := overrides_name accepted member
    simp [none role] at named
  · intro bare role
    simp [overrides_get accepted, bare]

end Overrides

theorem plan_ok {m : FactoryMethod} (planned : m.plan = .ok p) :
    p.method = m ∧ m.signature.overrides = .ok p.overrides ∧
      (p.mode = .keyed → ∀ q ∈ m.signature.parameters, q.name ∉ bodyNames m) := by
  unfold FactoryMethod.plan at planned
  cases checked : m.signature.overrides with
  | error s => simp [checked, bind, Except.bind] at planned
  | ok o =>
    simp only [checked, bind, Except.bind] at planned
    split at planned
    · rename_i simple
      cases planned
      refine ⟨rfl, rfl, ?_⟩
      intro keyed
      simp [Plan.mode, simple] at keyed
    · split at planned
      · cases planned
      · rename_i unhidden
        cases planned
        refine ⟨rfl, rfl, ?_⟩
        intro _ q member
        simpa using List.find?_eq_none.mp unhidden q member

end DaoMapper.Mapper
