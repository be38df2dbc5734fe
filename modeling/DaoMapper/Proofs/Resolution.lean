import DaoMapper.Proofs.Call
import DaoMapper.Proofs.Loading
import DaoMapper.Proofs.Scanned

-- What the names of a generated module mean once it has been read, and when its methods
-- can be called.
namespace DaoMapper.Mapper

open Execution

-- What no name of a module is taken for when it is read: one that comes from somewhere
-- else, the module's own class, or a builtin class that is wanted.
structure Declaration.ReadApart (d : Declaration) (cls : String) : Prop where
  own : ∀ x ∈ d.imported, ∀ y ∈ d.imported, Text.normal x.2 = Text.normal y.2 → Text.normal x.1 = Text.normal y.1
  named : ∀ x ∈ d.imported, Text.normal x.2 ≠ Text.normal cls
  builtins : ∀ t ∈ d.classes, t.isBuiltin → t.isClass → ∀ x ∈ d.imported, Text.normal x.2 ≠ Text.normal t.importName

instance (d : Declaration) (cls : String) : Decidable (d.ReadApart cls) :=
  decidable_of_iff (_ ∧ _ ∧ _)
    ⟨fun ⟨o, n, b⟩ => Declaration.ReadApart.mk o n b, fun ⟨o, n, b⟩ => ⟨o, n, b⟩⟩

structure TypeRef.Normal (t : TypeRef) : Prop where
  module : Text.normal t.module = t.module
  importName : Text.normal t.importName = t.importName

instance (t : TypeRef) : Decidable t.Normal :=
  decidable_of_iff (_ ∧ _) ⟨fun ⟨m, n⟩ => TypeRef.Normal.mk m n, fun ⟨m, n⟩ => ⟨m, n⟩⟩

end DaoMapper.Mapper

namespace DaoMapper.Execution

open Code
open Interface (ClassId Hierarchy)
open Mapper

section

variable {d : Declaration} {g : Generator} {module : Module} {h : Hierarchy} {m : Loaded}
  (done : (Generator.new d settings report).generate = (g, .ok module)) (apart : d.ReadApart module.body.name)
  (read : Read h module m globals)

include done

theorem wanted_imported {w : String × String}
    (wanted : w ∈ module.imports.flatMap fun i => i.names.map fun name => (Text.normal i.module, Text.normal name)) :
    ∃ x ∈ d.imported, w = (Text.normal x.1, Text.normal x.2) := by
  obtain ⟨i, written, there⟩ := List.mem_flatMap.mp wanted
  obtain ⟨name, named, rfl⟩ := List.mem_map.mp there
  exact ⟨(i.module, name), (imports_written done).mp ⟨i, written, rfl, named⟩, rfl⟩

include read

include apart in
theorem imported_global (imported : (source, name) ∈ d.imported) :
    (offered? h (Text.normal source) (Text.normal name)).isSome ∧
      Variables.get? m.globals (Text.normal name) = offered? h (Text.normal source) (Text.normal name) := by
  obtain ⟨heap, bound⟩ := read.imports
  have wanted : (Text.normal source, Text.normal name) ∈
      module.imports.flatMap fun i => i.names.map fun name => (Text.normal i.module, Text.normal name) := by
    obtain ⟨i, written, rfl, named⟩ := (imports_written done).mpr imported
    exact List.mem_flatMap.mpr ⟨i, written, List.mem_map.mpr ⟨name, named, rfl⟩⟩
  have once : ∀ w ∈ module.imports.flatMap fun i => i.names.map fun name => (Text.normal i.module, Text.normal name),
      w.2 = Text.normal name → w.1 = Text.normal source := by
    intro w member same
    obtain ⟨x, imported', rfl⟩ := wanted_imported done member
    exact apart.own x imported' _ imported same
  obtain ⟨some, found⟩ := bindWanted_offers bound once wanted
  refine ⟨some, ?_⟩
  rw [read.names]
  exact (Variables.get?_cons_other _ (apart.named _ imported)).trans found

theorem absent_global (absent : ∀ x ∈ d.imported, Text.normal x.2 ≠ name) (foreign : name ≠ Text.normal module.body.name) :
    Variables.get? m.globals name = none := by
  obtain ⟨heap, bound⟩ := read.imports
  have unwanted : name ∉
      (module.imports.flatMap fun i => i.names.map fun name => (Text.normal i.module, Text.normal name)).map (·.2) := by
    intro member
    obtain ⟨w, listed, same⟩ := List.mem_map.mp member
    obtain ⟨x, imported, rfl⟩ := wanted_imported done listed
    exact absent x imported same
  rw [read.names]
  exact (Variables.get?_cons_other _ foreign).trans (bindWanted_other bound unwanted)

include apart

theorem class_known {t : TypeRef} (named : t ∈ d.classes) (isClass : t.isClass = true) (normal : t.Normal)
    (foreign : t.importName ≠ Text.normal module.body.name) (there : h.classAt? t.module t.importName = some c) :
    m.global? t.importName = (m.hierarchy.classAt? t.module t.importName).map .cls := by
  unfold Loaded.global?
  rw [read.hierarchy]
  cases builtin : t.isBuiltin with
  | true =>
    have absent := apart.builtins t named builtin isClass
    rw [normal.importName] at absent
    rw [absent_global done read absent foreign]
    have module : t.module = "builtins" := by simpa [TypeRef.isBuiltin] using builtin
    rw [module]
    rfl
  | false =>
    have imported := imported_iff.mpr (.inr ⟨t, named, ⟨builtin, isClass⟩, rfl, rfl⟩)
    have found := (imported_global done apart read imported).2
    rw [normal.module, normal.importName] at found
    rw [found, offered?, there]
    rfl

theorem runtime_known (imported : (Draft.runtimeModule, name) ∈ d.imported) (runtime : (name, r) ∈ runtimeNames)
    (free : h.classAt? Draft.runtimeModule name = none) : m.global? name = some (.runtime r) := by
  have found := (imported_global done apart read imported).2
  have source : Text.normal Draft.runtimeModule = Draft.runtimeModule := Text.normal_ascii rfl
  have plain : Text.normal name = name := by
    simp only [runtimeNames, List.mem_cons, Prod.mk.injEq, List.not_mem_nil, or_false] at runtime
    rcases runtime with ⟨rfl, _⟩ | ⟨rfl, _⟩ | ⟨rfl, _⟩ | ⟨rfl, _⟩ <;> exact Text.normal_ascii rfl
  rw [source, plain] at found
  unfold Loaded.global?
  rw [found, offered?, free]
  simp only [runtimeNames, List.mem_cons, Prod.mk.injEq, List.not_mem_nil, or_false] at runtime
  rcases runtime with ⟨rfl, rfl⟩ | ⟨rfl, rfl⟩ | ⟨rfl, rfl⟩ | ⟨rfl, rfl⟩ <;> rfl

end

end DaoMapper.Execution

namespace DaoMapper.Mapper

open Code Execution
open Interface (ClassId Hierarchy)

-- A method that is there under its name, and a class that builds its DAOs: it stands
-- where the module looks for it, is not called like the module's class, and its parts
-- have no other names in there.
structure Plan.Usable (p : Plan) (h : Hierarchy) (cls : String) (c : ClassId) : Prop where
  named : inClass cls p.name = p.name
  isClass : p.method.implementation.isClass = true
  normal : p.method.implementation.Normal
  spelled : ∀ part ∈ p.method.implementation.path, inClass cls part = part
  foreign : p.builder ≠ Text.normal cls
  found : h.find? p.method.implementation = some c
  builds : Builds h c p.isAsync

instance (p : Plan) (h : Hierarchy) (cls : String) (c : ClassId) : Decidable (p.Usable h cls c) :=
  decidable_of_iff (_ ∧ _ ∧ _ ∧ _ ∧ _ ∧ _ ∧ _)
    ⟨fun ⟨n, i, m, s, f, l, b⟩ => Plan.Usable.mk n i m s f l b, fun ⟨n, i, m, s, f, l, b⟩ => ⟨n, i, m, s, f, l, b⟩⟩

-- The class gives other names to attributes that start with two underscores. This is
-- what it takes to keep them apart all the same: the fields from each other and from
-- the methods, and from the context where that is narrowed.
structure Declaration.Spelled (d : Declaration) (settings : Settings.Generator) (cls : String) : Prop where
  fields : ((d.fieldNames settings).map (inClass cls)).Nodup
  context : d.plans.any Plan.keyed = true →
    inClass cls settings.contextAttribute ∉ (d.fieldNames settings).map (inClass cls)
  methods : ∀ p ∈ d.plans,
    p.name ≠ inClass cls settings.contextAttribute ∧ p.name ∉ (d.fieldNames settings).map (inClass cls)

instance (d : Declaration) (settings : Settings.Generator) (cls : String) : Decidable (d.Spelled settings cls) :=
  decidable_of_iff (_ ∧ _ ∧ _) ⟨fun ⟨f, c, m⟩ => Declaration.Spelled.mk f c m, fun ⟨f, c, m⟩ => ⟨f, c, m⟩⟩

def Declaration.stands (d : Declaration) (settings : Settings.Generator) (h : Hierarchy) : List Stand :=
  List.zipWith (fun p field => ⟨p, field, (h.find? p.method.implementation).getD 0⟩) d.plans (d.fieldNames settings)

variable {d : Declaration} {settings : Settings.Generator} {h : Hierarchy} {cls : String}

theorem stands_plans (d : Declaration) (settings : Settings.Generator) (h : Hierarchy) :
    (d.stands settings h).map (·.plan) = d.plans := by
  simpa [Declaration.stands, List.map_zipWith] using zipWith_left d.plans (fun p => p) (d.fieldNames_length settings)

theorem stands_fields (d : Declaration) (settings : Settings.Generator) (h : Hierarchy) :
    (d.stands settings h).map (·.field) = d.fieldNames settings := by
  simpa [Declaration.stands, List.map_zipWith] using zipWith_right d.plans (d.fieldNames_length settings)

theorem stand_planned {x : Stand} (member : x ∈ d.stands settings h) : x.plan ∈ d.plans := by
  rw [← stands_plans d settings h]
  exact List.mem_map_of_mem member

theorem plan_stands {p : Plan} (there : p ∈ d.plans) (settings : Settings.Generator) (h : Hierarchy) :
    ∃ x ∈ d.stands settings h, x.plan = p := by
  rw [← stands_plans d settings h] at there
  exact List.mem_map.mp there

theorem stands_attributes (d : Declaration) (settings : Settings.Generator) (h : Hierarchy) (cls : String) :
    (d.stands settings h).map (fun x => inClass cls x.field) = (d.fieldNames settings).map (inClass cls) := by
  rw [← stands_fields d settings h, List.map_map]
  rfl

theorem stands_functions (d : Declaration) (settings : Settings.Generator) (h : Hierarchy) :
    (d.stands settings h).map (fun x => x.plan.function settings x.field) = d.functions settings := by
  simp [Declaration.stands, Declaration.functions, List.map_zipWith]

theorem stands_starts (d : Declaration) (settings : Settings.Generator) (h : Hierarchy) :
    (d.stands settings h).map (fun x => x.plan.field x.field) = d.fields settings := by
  simp [Declaration.stands, Declaration.fields, List.map_zipWith]

theorem stands_type {x : Stand} (member : x ∈ d.stands settings h) :
    x.type = (h.find? x.plan.method.implementation).getD 0 := by
  have each : ∀ x ∈ d.stands settings h, x.type = (h.find? x.plan.method.implementation).getD 0 := by
    refine (forall_zipWith_iff (fun p _ field => iff_true_intro ?_) (d.fieldNames_length settings)).mpr
      fun _ _ => trivial
    rfl
  exact each x member

theorem typeExpr_spelled {t : TypeRef} (first : inClass cls t.importName = t.importName)
    (parts : ∀ part ∈ t.path, inClass cls part = part) : renamed (inClass cls) (typeExpr t) = typeExpr t := by
  rw [typeExpr_fields, renamed_fields, renamed, first, List.map_congr_left parts, List.map_id'']
  exact fun _ => rfl

theorem init_name (cls : String) (settings : Settings.Generator) (fs : Fields) :
    (renamedFunction (inClass cls) (initFunction settings fs)).name = "__init__" := by
  have kept : inClass cls "__init__" = "__init__" := inClass_special cls _ rfl rfl
  rw [renamedFunction, initFunction, kept]

section

variable {g : Generator} {module : Module} {m : Loaded}
  (done : (Generator.new d settings report).generate = (g, .ok module)) (read : Read h module m globals)
  (named : ∀ p ∈ d.plans, inClass module.body.name p.name = p.name)
  (distinct : ("__init__" :: d.plans.map (·.name)).Nodup)

include done read

theorem functions_read : m.functions =
    renamedFunction (inClass module.body.name) (initFunction settings g.draft.fields) ::
      (d.functions settings).map (renamedFunction (inClass module.body.name)) := by
  rw [read.functions, loadedFunctions, generate_methods done, List.map_cons]

include named distinct

theorem functions_distinct : (m.functions.map (·.name)).Nodup := by
  have names : m.functions.map (·.name) = "__init__" :: d.plans.map (·.name) := by
    rw [functions_read done read, List.map_cons, List.map_map, ← stands_functions d settings h, List.map_map,
      ← stands_plans d settings h, List.map_map]
    refine congrArg₂ List.cons (init_name _ _ _) (List.map_congr_left fun x member => ?_)
    exact named x.plan (stand_planned member)
  rwa [names]

theorem function_found (there : f ∈ m.functions) : m.function? f.name = some f := by
  unfold Loaded.function?
  cases found : m.functions.reverse.find? (·.name == f.name) with
  | none =>
    have absent := List.find?_eq_none.mp found f (List.mem_reverse.mpr there)
    simp at absent
  | some other =>
    have same : other.name = f.name := by simpa using List.find?_some found
    have inj := List.inj_on_of_nodup_map (functions_distinct done read named distinct)
    rw [inj (List.mem_reverse.mp (List.mem_of_find?_eq_some found)) there same]

theorem init_found : m.function? "__init__" =
    some (renamedFunction (inClass module.body.name) (initFunction settings g.draft.fields)) := by
  have there : renamedFunction (inClass module.body.name) (initFunction settings g.draft.fields) ∈ m.functions := by
    rw [functions_read done read]
    exact List.mem_cons_self
  have found := function_found done read named distinct there
  rwa [init_name] at found

theorem stand_ready (apart : d.ReadApart module.body.name) (unshadowed : ∀ p ∈ d.plans, p.Unshadowed module.body.name)
    (usable : ∀ p ∈ d.plans, ∃ c, p.Usable h module.body.name c)
    (runtime : ∀ x ∈ runtimeNames, h.classAt? Draft.runtimeModule x.1 = none) {x : Stand}
    (member : x ∈ d.stands settings h) : Stand.Ready x m module.body.name settings := by
  have there := stand_planned member
  have listed : renamedFunction (inClass module.body.name) (x.plan.function settings x.field) ∈ m.functions := by
    rw [functions_read done read, ← stands_functions d settings h, List.map_map]
    exact List.mem_cons_of_mem _ (List.mem_map_of_mem member)
  obtain ⟨method, _, planned⟩ := Declaration.plans_planned there
  obtain ⟨c, _, isClass, normal, parts, foreign, found, builds⟩ := usable x.plan there
  have inside := typeExpr_spelled (unshadowed x.plan there).spelled parts
  have type : x.type = c := by rw [stands_type member, found, Option.getD_some]
  obtain ⟨first, stands, _⟩ := Option.bind_eq_some_iff.mp found
  have declared : x.plan.method.implementation ∈ d.classes :=
    List.mem_cons_of_mem _ (List.mem_flatMap.mpr ⟨x.plan, there, List.mem_cons_of_mem _ List.mem_cons_self⟩)
  have own : ∀ {name r}, name ∈ x.plan.runtimeNames → (name, r) ∈ runtimeNames → m.global? name = some (.runtime r) :=
    fun asked known => runtime_known done apart read (imported_iff.mpr (.inl (runtimeNames_imported there asked))) known
      (runtime _ known)
  exact {
    planned := ⟨method, planned⟩
    function := by
      rw [← named x.plan there]
      exact function_found done read named distinct listed
    unshadowed := unshadowed x.plan there
    spelled := inside
    known := class_known done apart read declared isClass normal foreign stands
    found := by rw [read.hierarchy, found, type]
    builds := by
      rw [read.hierarchy, type]
      exact builds
    cacheKey := fun keyed => own (by simp [Plan.runtimeNames, keyed]) (by decide)
    cache := fun keyed => own (by simp [Plan.runtimeNames, keyed]) (by decide)
    reference := fun simple async => own (by simp [Plan.runtimeNames, simple, async]) (by decide) }

end

end DaoMapper.Mapper
