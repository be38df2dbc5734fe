import DaoMapper.Proofs.Module
import DaoMapper.Proofs.Overrides
import Mathlib.Data.List.Perm.Basic

-- Which field a generated method answers from, and what that field starts with.
namespace DaoMapper.Mapper

open Code

structure Service where
  method : FactoryMethod
  field : String
  start : Expr

def built (m : FactoryMethod) (context : Expr) : Expr :=
  .call (.field (typeExpr m.implementation) "init") [context]

def builtAsync (m : FactoryMethod) (context : Expr) : Expr :=
  .call (.field (typeExpr m.implementation) "init_async") [context]

-- Without parameters a method returns what its field holds, else it asks the cache in it.
inductive Answers (m : FactoryMethod) (field : String) : List Statement → Expr → Prop where
  | shared (bare : m.signature.parameters = []) (sync : m.signature.isAsync = false) :
      Answers m field [.ret (.self field)] (built m (.name "context"))
  | sharedAsync (bare : m.signature.parameters = []) (async : m.signature.isAsync = true) :
      Answers m field [.ret (.self field)]
        (.call (.name "AsyncLazyReference") [.closure [] (builtAsync m (.name "context"))])
  | keyed (given : m.signature.parameters ≠ []) (sync : m.signature.isAsync = false)
      (key : String) (keyed narrowed : Expr) :
      Answers m field [.assign (.name key) keyed, .ret (.call (.field (.self field) "compute_if_absent")
        [.name key, .closure ["k"] (built m narrowed)])] (.call (.name "DaoCache") [])
  | keyedAsync (given : m.signature.parameters ≠ []) (async : m.signature.isAsync = true)
      (key : String) (keyed narrowed : Expr) :
      Answers m field [.assign (.name key) keyed, .ret (.call (.field (.self field) "compute_if_absent_async")
        [.name key, .closure ["k"] (builtAsync m narrowed)])] (.call (.name "DaoCache") [])

def Field.start : Field → Expr
  | .simple f => f.value
  | .map _ => .call (.name "DaoCache") []

def Fields.starts (fs : Fields) : List (String × Expr) :=
  fs.simple.map (fun f => (f.name, f.value)) ++ fs.maps.map fun f => (f.name, .call (.name "DaoCache") [])

-- `__init__` takes the simple fields before the caches, which only reorders them.
theorem starts_perm (taken : List String) (all : List Field) :
    (all.map fun f => (f.name, f.start)).Perm (⟨taken, all⟩ : Fields).starts := by
  induction all with
  | nil => exact .refl _
  | cons f rest ih =>
    cases f with
    | simple f => exact ih.cons _
    | map f => exact (ih.cons _).trans List.perm_middle.symm

theorem initFunction_body (settings : Settings.Generator) (fs : Fields) :
    (initFunction settings fs).body = .assign (.self settings.contextAttribute) (.name "context") ::
      fs.starts.map fun f => .assign (.self f.1) f.2 := by
  simp only [initFunction, Fields.starts, List.map_append, List.map_map]
  rfl

theorem Plan.field_name (p : Plan) (name : String) : (p.field name).name = name := by
  cases keyed : p.keyed with
  | true => rw [p.keyed_field name keyed]; rfl
  | false => rw [p.simple_field name keyed]; rfl

theorem Plan.function_body (p : Plan) (settings : Settings.Generator) (field : String) :
    (p.function settings field).body =
      if p.keyed then keyedBody field p.method.implementation p.isAsync p.overrides settings.contextAttribute
      else simpleBody field := by
  cases mode : p.mode <;> simp [Plan.function, overriding, body, Plan.keyed, Plan.isAsync, mode]

def Plan.service (p : Plan) (name : String) : Service := ⟨p.method, name, (p.field name).start⟩

theorem plan_bare {m : FactoryMethod} (planned : m.plan = .ok p) :
    p.keyed = false ↔ m.signature.parameters = [] := by
  rw [← Overrides.mode_of_parameters (plan_ok planned).2.1]
  unfold Plan.keyed Plan.mode
  cases p.overrides.mode <;> simp

theorem service_answers {m : FactoryMethod} (planned : m.plan = .ok p) (settings : Settings.Generator)
    (name : String) :
    Answers p.method name (p.function settings name).body (p.field name).start := by
  obtain rfl := (plan_ok planned).1
  rw [p.function_body]
  cases keyed : p.keyed with
  | false =>
    have bare := (plan_bare planned).mp keyed
    rw [p.simple_field name keyed]
    cases async : p.isAsync with
    | false => exact Answers.shared bare async
    | true => exact Answers.sharedAsync bare async
  | true =>
    have given : p.method.signature.parameters ≠ [] := by
      intro bare
      rw [← plan_bare planned, keyed] at bare
      cases bare
    rw [p.keyed_field name keyed]
    cases async : p.isAsync with
    | false => exact Answers.keyed given async _ _ _
    | true => exact Answers.keyedAsync given async _ _ _

theorem Declaration.plans_planned {d : Declaration} (member : p ∈ d.plans) :
    ∃ m ∈ d.methods, m.plan = .ok p := by
  obtain ⟨m, declared, planned⟩ := List.mem_filterMap.mp member
  refine ⟨m, declared, ?_⟩
  cases result : m.plan with
  | error s => simp [result, Except.toOption] at planned
  | ok q => simpa [result, Except.toOption] using planned

theorem Declaration.plans_sublist (d : Declaration) : (d.plans.map (·.method)).Sublist d.methods := by
  unfold Declaration.plans
  induction d.methods with
  | nil => exact .slnil
  | cons m rest ih =>
    cases planned : m.plan with
    | error s => simpa [planned, Except.toOption] using ih.cons m
    | ok p =>
      obtain rfl := (plan_ok planned).1
      simpa [planned, Except.toOption] using ih

def Declaration.services (d : Declaration) (settings : Settings.Generator) : List Service :=
  List.zipWith Plan.service d.plans (d.fieldNames settings)

-- `fields` is what `__init__` assigns after the context, in that order.
structure Served (d : Declaration) (settings : Settings.Generator) (generated : List String)
    (functions : List Function) (fields : List (String × Expr)) (services : List Service) : Prop where
  init : ∃ init methods, functions = init :: methods ∧ init.name = "__init__" ∧
    init.body = .assign (.self settings.contextAttribute) (.name "context") ::
      fields.map (fun f => .assign (.self f.1) f.2) ∧
    List.Forall₂ (fun s f => f.name = s.method.signature.name ∧ Answers s.method s.field f.body s.start)
      services methods
  distinct : (fields.map (·.1)).Nodup
  free : ∀ f ∈ fields, f.1 ≠ settings.contextAttribute ∧ f.1 ∉ d.members
  bijection : (services.map fun s => (s.field, s.start)).Perm fields
  declared : (services.map (·.method)).Sublist d.methods
  generated : generated = services.map (·.method.signature.name)

theorem fields_serve_methods
    (done : (Generator.new d settings report).generate = (g, .ok module)) :
    ∃ fields services, Served d settings g.draft.generated module.body.methods fields services := by
  have finished := generate_finished done
  have size := d.fieldNames_length settings
  have entries : (d.fields settings).map (fun f => (f.name, f.start)) =
      (d.services settings).map fun s => (s.field, s.start) := by
    simp [Declaration.fields, Declaration.services, List.map_zipWith, Plan.field_name, Plan.service]
  have perm : ((d.services settings).map fun s => (s.field, s.start)).Perm g.draft.fields.starts := by
    rw [← entries, ← finished.fields]
    exact starts_perm g.draft.fields.taken g.draft.fields.all
  have names : ((d.services settings).map fun s => (s.field, s.start)).map (·.1) = d.fieldNames settings := by
    simp only [Declaration.services, List.map_zipWith, Plan.service]
    exact zipWith_right _ size
  have answers : List.Forall₂ (fun s f => f.name = s.method.signature.name ∧
      Answers s.method s.field f.body s.start) (d.services settings) (d.functions settings) := by
    refine zipWith_forall₂ ?_ _
    intro p member name
    obtain ⟨m, _, planned⟩ := Declaration.plans_planned member
    exact ⟨rfl, service_answers planned settings name⟩
  refine ⟨g.draft.fields.starts, d.services settings, ?_, ?_, ?_, perm, ?_, ?_⟩
  · exact ⟨_, _, generate_methods done, rfl, initFunction_body _ _, answers⟩
  · rw [← (perm.map (·.1)).nodup_iff, names]
    exact d.fieldNames_distinct settings
  · intro f member
    refine Declaration.fieldNames_free (d := d) ?_
    rw [← names]
    exact List.mem_map_of_mem (perm.mem_iff.mpr member)
  · simp only [Declaration.services, List.map_zipWith]
    exact zipWith_left d.plans Plan.method size ▸ d.plans_sublist
  · rw [finished.generated]
    simp only [Declaration.services, List.map_zipWith]
    exact (zipWith_left d.plans Plan.name size).symm

-- One method of each kind, one that is left out, and a member with the name of a field.
def shop : Declaration where
  mapper := ⟨"shop.mappers", "ShopMapper", true⟩
  methods :=
    let dao : TypeRef := ⟨"shop.daos", "ProductDao", true⟩
    let keyspace : Parameter := ⟨"keyspace", .text, some .keyspace, none⟩
    [⟨⟨"ShopMapper", "products", [], dao, false⟩, dao⟩,
      ⟨⟨"ShopMapper", "orders", [], dao, true⟩, dao⟩,
      ⟨⟨"ShopMapper", "labelled", [⟨"label", .text, none, none⟩], dao, true⟩, dao⟩,
      ⟨⟨"ShopMapper", "products_in", [keyspace], dao, false⟩, dao⟩,
      ⟨⟨"ShopMapper", "orders_in", [keyspace], dao, true⟩, dao⟩]
  members := ["products", "orders", "labelled", "products_in", "orders_in", "products_cache"]
  skipped := []

theorem shop_generated : ∃ g module, (Generator.new shop .default .empty).generate = (g, .ok module) :=
  generate_of_isOk (by decide +kernel)

theorem shop_served :
    ∃ g module, (Generator.new shop .default .empty).generate = (g, .ok module) ∧
      ∃ fields services, Served shop .default g.draft.generated module.body.methods fields services := by
  obtain ⟨g, module, done⟩ := shop_generated
  exact ⟨g, module, done, fields_serve_methods done⟩

end DaoMapper.Mapper
