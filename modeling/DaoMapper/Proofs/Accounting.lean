import DaoMapper.Proofs.Inherited
import DaoMapper.Proofs.Scope
import DaoMapper.Proofs.Skipping

-- Every abstract method of a mapper is accounted for: it is generated or it is skipped,
-- and there is an error for each that is skipped.
namespace DaoMapper.Interface

open Mapper (FactoryMethod Generator Report)

theorem problems_errors (h : Hierarchy) (c : ClassId) (names : List String) :
    Mapper.Diagnostic.errors (names.filterMap (h.problem? c)) = names.filterMap (h.problem? c) := by
  refine List.filter_eq_self.mpr fun e member => ?_
  obtain ⟨name, _, reported⟩ := List.mem_filterMap.mp member
  unfold Hierarchy.problem? at reported
  split at reported <;> cases reported
  rfl

theorem scan_accounts {h : Hierarchy} (scanned : h.scanClass c report = (after, .ok d)) :
    d.mapper = h.type c ∧ (d.methods.map (·.signature.name) ++ d.skipped).Perm (h.abstractInOrder c) ∧
      after.errors.length = report.errors.length + d.skipped.length := by
  obtain ⟨next, sound, through, ended, rfl⟩ := scanClass_ok scanned
  refine ⟨rfl, through.parted sound, ?_⟩
  have errors : after.errors = report.errors ++ (h.abstractInOrder c).filterMap (h.problem? c) := by
    rw [Report.errors, ended, through.diagnostics, Mapper.Diagnostic.errors, List.filter_append]
    exact congrArg _ (problems_errors h c _)
  rw [errors, List.length_append, ← (problems_listed h c _).length_eq, through.skipped, List.nil_append]

end DaoMapper.Interface

namespace DaoMapper.Mapper

open Code Execution

def overridden (m : Module) (name : String) : Prop := ∃ f ∈ m.body.methods, inClass m.body.name f.name = name

instance (m : Module) (name : String) : Decidable (overridden m name) :=
  inferInstanceAs (Decidable (∃ f ∈ m.body.methods, inClass m.body.name f.name = name))

theorem accepted_names (methods : List FactoryMethod) :
    (methods.filterMap (·.plan.toOption)).map Plan.name =
      (methods.filter (·.accepted)).map (·.signature.name) := by
  induction methods with
  | nil => rfl
  | cons m rest ih =>
    cases planned : m.plan with
    | error s =>
      rw [List.filterMap_cons_none (by simp [planned, Except.toOption]),
        List.filter_cons_of_neg (by simp [m.accepted_error planned]), ih]
    | ok p =>
      have same : p.name = m.signature.name := by rw [Plan.name, (plan_ok planned).1]
      rw [List.filterMap_cons_some (by rw [planned]; rfl), List.filter_cons_of_pos (m.accepted_ok planned),
        List.map_cons, List.map_cons, ih, same]

theorem generate_settles (done : (Generator.new d settings report).generate = (g, .ok m)) :
    (g.draft.generated ++ g.draft.skipped).Perm (d.methods.map (·.signature.name) ++ d.skipped) ∧
      g.draft.report.errors.length + d.skipped.length = report.errors.length + g.draft.skipped.length := by
  obtain ⟨skipped, reported, errors, blamed⟩ := Draft.run_settled (generate_run done)
  have generated : g.draft.generated = (d.methods.filter (·.accepted)).map (·.signature.name) :=
    (generate_finished done).generated.trans (accepted_names d.methods)
  have skipped : g.draft.skipped = d.skipped ++ (d.methods.filter (!·.accepted)).map (·.signature.name) := skipped
  constructor
  · have parted := (List.filter_append_perm (·.accepted) d.methods).map (·.signature.name)
    rw [List.map_append] at parted
    rw [generated, skipped]
    refine (List.perm_append_comm.append_left _).trans ?_
    rw [← List.append_assoc]
    exact parted.append_right _
  · have errors : g.draft.report.errors = report.errors ++ reported := errors
    rw [errors, skipped, List.length_append, List.length_append, List.length_map, blamed.length_eq]
    omega

theorem generate_names (done : (Generator.new d settings report).generate = (g, .ok m)) :
    m.body.methods.map (·.name) = "__init__" :: g.draft.generated := by
  rw [generate_methods done, (generate_finished done).generated, List.map_cons, Declaration.functions, List.map_zipWith]
  exact congrArg _ (zipWith_left d.plans Plan.name (d.fieldNames_length settings))

-- Where the class keeps the names as they are, what it overrides is what was generated,
-- and the constructor of the mapper.
theorem overridden_iff (done : (Generator.new d settings report).generate = (g, .ok m))
    (spelled : ∀ name ∈ g.draft.generated, inClass m.body.name name = name) (name : String) :
    overridden m name ↔ name = "__init__" ∨ name ∈ g.draft.generated := by
  have names := generate_names done
  constructor
  · intro overrides
    obtain ⟨f, member, rfl⟩ := overrides
    have among := List.mem_map_of_mem (f := (·.name)) member
    rw [names, List.mem_cons] at among
    rcases among with init | generated
    · left
      rw [init]
      exact inClass_special _ _ rfl rfl
    · right
      rwa [spelled _ generated]
  · intro either
    have among : name ∈ m.body.methods.map (·.name) := by
      rw [names]
      exact List.mem_cons.mpr either
    obtain ⟨f, member, rfl⟩ := List.mem_map.mp among
    refine ⟨f, member, ?_⟩
    rcases either with init | generated
    · rw [init]
      exact inClass_special _ _ rfl rfl
    · exact spelled _ generated

end DaoMapper.Mapper

namespace DaoMapper.Interface

open Mapper Execution

structure Accounted (h : Hierarchy) (c : ClassId) (report : Report) (m : Code.Module) (generated skipped : List String) :
    Prop where
  all : (generated ++ skipped).Perm (h.abstractOf c)
  distinct : (generated ++ skipped).Nodup
  errors : report.errors.length = skipped.length
  overrides : (∀ name ∈ h.abstractOf c, inClass m.body.name name = name) →
    ∀ name, overridden m name ↔ name = "__init__" ∨ name ∈ generated

theorem implement_accounts {h : Hierarchy} (declared : h.Declared)
    (made : h.implement (.type c) settings .empty = (report, .ok done)) :
    ∃ scanned g, h.scan (.type c) .empty = (scanned, .ok done.declaration) ∧
      (Generator.new done.declaration settings scanned).generate = (g, .ok done.module) ∧
      report = g.draft.report ∧ done.text = g.text done.module ∧
      Accounted h c report done.module g.draft.generated g.draft.skipped := by
  unfold Hierarchy.implement at made
  split at made
  · cases made
  · rename_i scanned d read
    dsimp only at made
    cases ran : (Generator.new d settings scanned).generate with
    | mk g result =>
      rw [ran] at made
      cases result with
      | error r => cases made
      | ok m =>
        cases made
        obtain ⟨-, all, errors⟩ := scan_accounts read
        obtain ⟨settled, count⟩ := generate_settles ran
        have perm := (settled.trans all).trans (declared.abstract_perm c)
        have total : g.draft.report.errors.length = g.draft.skipped.length := by
          have none : (Report.empty.errors).length = 0 := rfl
          omega
        refine ⟨scanned, g, read, ran, rfl, rfl, perm, (perm.nodup_iff).mpr (declared.lists c).1, total, ?_⟩
        intro spelled name
        refine overridden_iff ran (fun name generated => spelled name ?_) name
        exact perm.subset (List.mem_append_left _ generated)

end DaoMapper.Interface
