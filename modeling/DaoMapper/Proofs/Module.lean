import DaoMapper.Proofs.Draft
import Mathlib.Data.List.Forall2

-- What a generated module consists of, and what its generator keeps of the run.
namespace DaoMapper.Mapper

open Code

-- Facts about two lists walked in step, the second as long as the first.
theorem zipWith_left (xs : List α) (f : α → γ) {ys : List β} (size : ys.length = xs.length) :
    List.zipWith (fun x _ => f x) xs ys = xs.map f := by
  induction xs generalizing ys with
  | nil => simp
  | cons x rest ih =>
    cases ys with
    | nil => cases size
    | cons y ys => simp [ih (Nat.succ.inj size)]

theorem zipWith_right (xs : List α) {ys : List β} (size : ys.length = xs.length) :
    List.zipWith (fun _ y => y) xs ys = ys := by
  induction xs generalizing ys with
  | nil => simpa using (List.length_eq_zero_iff.mp size).symm
  | cons x rest ih =>
    cases ys with
    | nil => cases size
    | cons y ys => simp [ih (Nat.succ.inj size)]

theorem zipWith_forall₂ {f : α → β → γ} {g : α → β → δ} {holds : γ → δ → Prop} {xs : List α}
    (each : ∀ x ∈ xs, ∀ y, holds (f x y) (g x y)) (ys : List β) :
    List.Forall₂ holds (List.zipWith f xs ys) (List.zipWith g xs ys) := by
  induction xs generalizing ys with
  | nil => exact .nil
  | cons x rest ih =>
    cases ys with
    | nil => exact .nil
    | cons y ys =>
      exact .cons (each x List.mem_cons_self y) (ih (fun x' member => each x' (List.mem_cons_of_mem _ member)) ys)

theorem zipWith_eq_map_iff {f : α → β → γ} {g : α → γ} {holds : α → Prop} {xs : List α} {ys : List β}
    (each : ∀ x ∈ xs, ∀ y, f x y = g x ↔ holds x) (size : ys.length = xs.length) :
    List.zipWith f xs ys = xs.map g ↔ ∀ x ∈ xs, holds x := by
  induction xs generalizing ys with
  | nil => simp
  | cons x rest ih =>
    cases ys with
    | nil => cases size
    | cons y ys =>
      have tail := ih (fun x' member => each x' (List.mem_cons_of_mem _ member)) (Nat.succ.inj size)
      rw [List.zipWith_cons_cons, List.map_cons, List.cons.injEq, List.forall_mem_cons, tail,
        each x List.mem_cons_self]

theorem forall_zipWith_iff {f : α → β → γ} {good : γ → Prop} {holds : α → Prop} {xs : List α} {ys : List β}
    (each : ∀ x ∈ xs, ∀ y, good (f x y) ↔ holds x) (size : ys.length = xs.length) :
    (∀ z ∈ List.zipWith f xs ys, good z) ↔ ∀ x ∈ xs, holds x := by
  induction xs generalizing ys with
  | nil => simp
  | cons x rest ih =>
    cases ys with
    | nil => cases size
    | cons y ys =>
      have tail := ih (fun x' member => each x' (List.mem_cons_of_mem _ member)) (Nat.succ.inj size)
      rw [List.zipWith_cons_cons, List.forall_mem_cons, List.forall_mem_cons, tail, each x List.mem_cons_self]

theorem Plan.keyed_field (p : Plan) (name : String) (keyed : p.keyed = true) :
    p.field name = .map ⟨name, p.method.signature.returns⟩ := by
  have mode : p.mode = .keyed := by simpa [Plan.keyed] using keyed
  simp [Plan.field, mode]

theorem Plan.simple_field (p : Plan) (name : String) (simple : p.keyed = false) :
    p.field name = .simple ⟨name, p.method.signature.returns, p.method.implementation, p.isAsync⟩ := by
  have mode : p.mode = .simple := by
    cases m : p.mode with
    | simple => rfl
    | keyed => simp [Plan.keyed, m] at simple
  simp [Plan.field, Plan.isAsync, mode]

namespace Fields

variable {taken : List String}

@[simp] theorem maps_cons_map (f : MapField) (rest : List Field) :
    (⟨taken, .map f :: rest⟩ : Fields).maps = f :: (⟨taken, rest⟩ : Fields).maps := rfl

@[simp] theorem maps_cons_simple (f : SimpleField) (rest : List Field) :
    (⟨taken, .simple f :: rest⟩ : Fields).maps = (⟨taken, rest⟩ : Fields).maps := rfl

@[simp] theorem simple_cons_map (f : MapField) (rest : List Field) :
    (⟨taken, .map f :: rest⟩ : Fields).simple = (⟨taken, rest⟩ : Fields).simple := rfl

@[simp] theorem simple_cons_simple (f : SimpleField) (rest : List Field) :
    (⟨taken, .simple f :: rest⟩ : Fields).simple = f :: (⟨taken, rest⟩ : Fields).simple := rfl

theorem simple_map (g : TypeRef → Bool → γ) {plans : List Plan} {names : List String}
    (size : names.length = plans.length) :
    (⟨taken, List.zipWith Plan.field plans names⟩ : Fields).simple.map (fun f => g f.implementation f.isAsync) =
      (plans.filter (!·.keyed)).map fun p => g p.method.implementation p.isAsync := by
  induction plans generalizing names with
  | nil => rfl
  | cons p rest ih =>
    cases names with
    | nil => cases size
    | cons name names =>
      have tail := ih (Nat.succ.inj size)
      cases keyed : p.keyed with
      | true => simpa [p.keyed_field name keyed, keyed] using tail
      | false => simpa [p.simple_field name keyed, keyed] using tail

theorem maps_map (c : γ) {plans : List Plan} {names : List String} (size : names.length = plans.length) :
    (⟨taken, List.zipWith Plan.field plans names⟩ : Fields).maps.map (fun _ => c) =
      (plans.filter (·.keyed)).map fun _ => c := by
  induction plans generalizing names with
  | nil => rfl
  | cons p rest ih =>
    cases names with
    | nil => cases size
    | cons name names =>
      have tail := ih (Nat.succ.inj size)
      cases keyed : p.keyed with
      | true => simpa [p.keyed_field name keyed, keyed, List.replicate_succ] using tail
      | false => simpa [p.simple_field name keyed, keyed] using tail

theorem maps_isEmpty {plans : List Plan} {names : List String} (size : names.length = plans.length) :
    (⟨taken, List.zipWith Plan.field plans names⟩ : Fields).maps.isEmpty = !plans.any Plan.keyed := by
  have mapped := @maps_map taken _ () _ _ size
  rw [← List.isEmpty_map (f := fun _ => ()), mapped, List.isEmpty_map, Bool.eq_iff_iff]
  simp [List.filter_eq_nil_iff]

theorem simple_anyAsync {plans : List Plan} {names : List String} (size : names.length = plans.length) :
    (⟨taken, List.zipWith Plan.field plans names⟩ : Fields).simple.any (·.isAsync) =
      plans.any fun p => !p.keyed && p.isAsync := by
  have mapped := @simple_map taken _ (fun _ async => async) _ _ size
  calc (⟨taken, List.zipWith Plan.field plans names⟩ : Fields).simple.any (·.isAsync)
      = ((plans.filter (!·.keyed)).map fun p => p.isAsync).any id := by rw [← mapped, List.any_map]; rfl
    _ = plans.any fun p => !p.keyed && p.isAsync := by rw [List.any_map, List.any_filter]; rfl

end Fields

theorem Declaration.fieldNames_length (d : Declaration) (settings : Settings.Generator) :
    (d.fieldNames settings).length = d.plans.length := by
  simp [fieldNames, uniqueFields_length]

theorem Declaration.fieldNames_distinct (d : Declaration) (settings : Settings.Generator) :
    (d.fieldNames settings).Nodup :=
  uniqueFields_distinct _ _

theorem Declaration.fieldNames_free {d : Declaration} (member : name ∈ d.fieldNames settings) :
    name ≠ settings.contextAttribute ∧ name ∉ d.members := by
  have free := uniqueFields_free _ _ name member
  simp only [List.mem_append, List.mem_singleton, not_or] at free
  exact ⟨free.2, free.1⟩

def Declaration.functions (d : Declaration) (settings : Settings.Generator) : List Function :=
  List.zipWith (fun p name => p.function settings name) d.plans (d.fieldNames settings)

def Declaration.fields (d : Declaration) (settings : Settings.Generator) : List Field :=
  List.zipWith Plan.field d.plans (d.fieldNames settings)

namespace Draft

theorem importRuntime_grown (d : Draft) (names : List String) :
    Imports.Grown d.imports (d.importRuntime names).imports [] (names.map (runtimeModule, ·)) :=
  Imports.addAll_grown _ _ _

theorem importFieldTypes_grown {d : Draft} (caches : d.fields.maps.isEmpty = !keyed)
    (references : d.fields.simple.any (·.isAsync) = lazy) :
    Imports.Grown d.imports d.importFieldTypes.imports []
      (((if keyed then [cacheKeyName, "DaoCache"] else []) ++
        if lazy then ["AsyncLazyReference"] else []).map (runtimeModule, ·)) := by
  have names : fieldImports d.fields =
      (if keyed then [cacheKeyName, "DaoCache"] else []) ++ if lazy then ["AsyncLazyReference"] else [] := by
    cases keyed <;> simp [fieldImports, caches, references]
  rw [importFieldTypes_eq, names]
  exact importRuntime_grown d _

structure Finished (declaration : Declaration) (settings : Settings.Generator) (d : Draft) (m : Module) :
    Prop where
  context : settings.contextAttribute ∉ declaration.members
  module : m = moduleOf declaration.mapper settings d (declaration.functions settings)
  fields : d.fields.all = declaration.fields settings
  generated : d.generated = declaration.plans.map (·.name)
  imports : Imports.Grown [] d.imports declaration.classes declaration.ownImports

theorem run_finished (ran : (Draft.initial declaration settings start).run declaration settings = (d, .ok m)) :
    Finished declaration settings d m := by
  obtain ⟨unclaimed, first, last, functions, needed, done, rfl, rfl⟩ := run_ok ran
  have grown := methods_ok done
  have made : functions = declaration.functions settings := grown.functions
  have all : last.fields.all = declaration.fields settings := grown.fields
  have size := declaration.fieldNames_length settings
  have mapper := Imports.need_grown needed
  have runtime := importRuntime_grown
    { (Draft.initial declaration settings start) with imports := first } ["MapperContext"]
  have maps : last.fields.maps.isEmpty = !declaration.plans.any Plan.keyed := by
    have known := @Fields.maps_isEmpty last.fields.taken _ _ size
    rwa [← Declaration.fields, ← all] at known
  have lazy : last.fields.simple.any (·.isAsync) = declaration.plans.any fun p => !p.keyed && p.isAsync := by
    have known := @Fields.simple_anyAsync last.fields.taken _ _ size
    rwa [← Declaration.fields, ← all] at known
  exact {
    context := unclaimed
    module := by
      rw [made]
      rfl
    fields := by
      rw [concluded_fields]
      exact all
    generated := (concluded_generated _ _ _).trans grown.generated
    imports := by
      have whole := ((mapper.trans runtime).trans grown.imports).trans (importFieldTypes_grown maps lazy)
      simp only [List.nil_append, List.append_nil, List.map_cons, List.map_nil,
        List.cons_append] at whole
      exact whole }

end Draft

theorem generate_run (done : (Generator.new d settings report).generate = (g, .ok m)) :
    (Draft.initial d settings report).run d settings = (g.draft, .ok m) := by
  unfold Generator.generate Generator.new at done
  simp only at done
  split at done
  · simp at done
  · rename_i draft made ran
    cases done
    exact ran

theorem generate_finished (done : (Generator.new d settings report).generate = (g, .ok m)) :
    Draft.Finished d settings g.draft m := Draft.run_finished (generate_run done)

theorem generate_named (done : (Generator.new d settings report).generate = (g, .ok m)) :
    m.body.name = className d.mapper settings := by
  rw [(generate_finished done).module]
  rfl

theorem generate_methods (done : (Generator.new d settings report).generate = (g, .ok m)) :
    m.body.methods = initFunction settings g.draft.fields :: d.functions settings := by
  rw [(generate_finished done).module]
  rfl

theorem generate_imports (done : (Generator.new d settings report).generate = (g, .ok m)) :
    m.imports = g.draft.imports.statements := by
  rw [(generate_finished done).module]
  rfl

theorem generate_of_isOk {g : Generator} (accepted : g.generate.2.isOk = true) :
    ∃ next m, g.generate = (next, .ok m) := by
  cases done : g.generate with
  | mk next result =>
    cases result with
    | error r => simp [done, Except.isOk, Except.toBool] at accepted
    | ok m => exact ⟨next, m, rfl⟩

end DaoMapper.Mapper
