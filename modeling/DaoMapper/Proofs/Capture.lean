import DaoMapper.Proofs.Scope
import DaoMapper.Proofs.Service

-- Which generated functions leave the names of the module alone: what they bind,
-- what they read from outside, and exactly when nothing they read is bound on the way.
namespace DaoMapper.Mapper

open Code Execution

theorem keyVariable_spelled (o : Overrides) : keyVariable o ∈ ["key", "key_", "key__"] := by
  unfold keyVariable
  simp only [keyVariableFrom]
  split
  · split <;> simp
  · simp

-- Two names are taken at most, and there are three to choose from.
theorem keyVariable_fresh (o : Overrides) (role : Role) : o.get role ≠ some (keyVariable o) := by
  have free : some (keyVariable o) ∉ [o.keyspace, o.table] := by
    unfold keyVariable
    simp only [keyVariableFrom, List.contains_eq_mem, decide_eq_true_eq]
    split
    · rename_i first
      split
      · rename_i second
        intro third
        simp only [List.mem_cons, List.not_mem_nil, or_false] at first second third
        grind
      · assumption
    · assumption
  intro same
  cases role <;> simp [← same, Overrides.get] at free

def Plan.parameters (p : Plan) : List String := p.method.signature.parameters.map (·.name)

def Plan.builder (p : Plan) : String := p.method.implementation.importName

def Plan.reads (p : Plan) : List (List String) := if p.keyed then [[cacheKeyName], [p.builder]] else [[]]

def Plan.startReads (p : Plan) : List String :=
  if p.keyed then ["DaoCache"] else if p.isAsync then ["AsyncLazyReference", p.builder] else [p.builder]

def Declaration.initReads (d : Declaration) : List (List String) :=
  [] :: ((d.plans.filter (!·.keyed)).map Plan.startReads ++ (d.plans.filter (·.keyed)).map Plan.startReads)

variable (cls : String)

-- Exactly what keeps a method and the start of its field apart from what they bind:
-- no parameter takes the receiver's place, and the class that builds its DAOs is
-- spelled like none of the names bound where it stands.
structure Plan.Uncaptured (p : Plan) : Prop where
  distinct : ("self" :: p.parameters.map (ownName cls)).Nodup
  spelled : ownName cls p.builder = p.builder
  unbound : p.builder ∉ if p.keyed then
    ["k", keyVariable p.overrides, "self"] ++ p.parameters.map (ownName cls) else ["self", "context"]

instance (p : Plan) : Decidable (p.Uncaptured cls) :=
  decidable_of_iff (_ ∧ _ ∧ _) ⟨fun ⟨d, s, u⟩ => Plan.Uncaptured.mk d s u, fun ⟨d, s, u⟩ => ⟨d, s, u⟩⟩

theorem ownName_keyVariable (o : Overrides) : ownName cls (keyVariable o) = keyVariable o := by
  have spelled := keyVariable_spelled o
  simp only [List.mem_cons, List.not_mem_nil, or_false] at spelled
  rcases spelled with same | same | same <;> rw [same] <;> exact ownName_plain cls _ rfl

theorem function_parameters (p : Plan) (settings : Settings.Generator) (field : String) :
    (renamedFunction (ownName cls) (p.function settings field)).parameters =
      "self" :: p.parameters.map (ownName cls) := by
  simp [Plan.function, overriding, renamedFunction, Function.parameters, Plan.parameters,
    ownName_plain cls "self" rfl]

theorem function_assigned (p : Plan) (settings : Settings.Generator) (field : String) :
    (renamedFunction (ownName cls) (p.function settings field)).body.flatMap Statement.assigned =
      if p.keyed then [keyVariable p.overrides] else [] := by
  rw [renamedFunction, p.function_body]
  cases p.keyed with
  | false => rfl
  | true => simp [keyedBody, renamedStatement, renamed, Statement.assigned, ownName_keyVariable]

theorem keyVariable_unbound {m : FactoryMethod} (planned : m.plan = .ok p) :
    keyVariable p.overrides ∉ "self" :: p.parameters.map (ownName cls) := by
  have spelled := keyVariable_spelled p.overrides
  obtain ⟨rfl, accepted, _⟩ := plan_ok planned
  intro member
  rcases List.mem_cons.mp member with receiver | parameter
  · rw [receiver] at spelled
    simp at spelled
  · obtain ⟨name, declared, same⟩ := List.mem_map.mp parameter
    obtain ⟨q, there, rfl⟩ := List.mem_map.mp declared
    have letter : (keyVariable p.overrides).toList.head? ≠ some '_' := by
      simp only [List.mem_cons, List.not_mem_nil, or_false] at spelled
      rcases spelled with key | key | key <;> rw [key] <;> decide
    have same := (ownName_letter letter).mp same
    obtain ⟨role, _, named⟩ := Overrides.overrides_name accepted there
    exact keyVariable_fresh p.overrides role (same ▸ named)

def Plan.bound (p : Plan) : List String :=
  "k" :: ("self" :: p.parameters.map (ownName cls) ++ [keyVariable p.overrides])

theorem argument_bound {s : Signature} (accepted : s.overrides = .ok o) (role : Role)
    (bound : (s.parameters.map (·.name)).map (ownName cls) ⊆ scope) :
    (renamed (ownName cls) (argumentOrNone (o.get role))).free scope = [] := by
  cases named : o.get role with
  | none => rfl
  | some name =>
    have declared := Overrides.overrides_declared accepted named
    have there := bound (List.mem_map_of_mem declared)
    simp [argumentOrNone, renamed, Expr.free, there]

theorem cacheKeyName_unbound {m : FactoryMethod} (planned : m.plan = .ok p) (keyed : p.keyed = true) :
    cacheKeyName ∉ "self" :: p.parameters.map (ownName cls) ++ [keyVariable p.overrides] := by
  have mode : p.mode = .keyed := by simpa [Plan.keyed] using keyed
  have spelled := keyVariable_spelled p.overrides
  obtain ⟨rfl, _, unhidden⟩ := plan_ok planned
  simp only [List.cons_append, List.mem_cons, List.mem_append, List.mem_map, List.not_mem_nil, or_false,
    not_or, not_exists, not_and]
  refine ⟨by decide, ?_, ?_⟩
  · intro name declared same
    have same := (ownName_letter (by decide)).mp same
    obtain ⟨q, there, rfl⟩ := List.mem_map.mp declared
    exact unhidden mode q there (by simp [bodyNames, same])
  · intro same
    rw [← same] at spelled
    simp [cacheKeyName] at spelled

theorem keyed_reads {m : FactoryMethod} (planned : m.plan = .ok p) (keyed : p.keyed = true)
    (settings : Settings.Generator) (field : String) :
    (renamedFunction (ownName cls) (p.function settings field)).reads =
      [[cacheKeyName], if (p.bound cls).contains (ownName cls p.builder) then [] else [ownName cls p.builder]] := by
  have imported := cacheKeyName_unbound cls planned keyed
  obtain ⟨rfl, accepted, _⟩ := plan_ok planned
  have names : (renamedFunction (ownName cls) (p.function settings field)).variables =
      "self" :: p.parameters.map (ownName cls) ++ [keyVariable p.overrides] := by
    rw [Function.variables, function_parameters, function_assigned, keyed]
    rfl
  have parameters : p.parameters.map (ownName cls) ⊆
      "self" :: p.parameters.map (ownName cls) ++ [keyVariable p.overrides] := by
    intro name member
    simp [member]
  have keyspace := argument_bound cls accepted .keyspace parameters
  have table := argument_bound cls accepted .table parameters
  simp only [Overrides.get] at keyspace table
  rw [Function.reads, names, renamedFunction, p.function_body, keyed]
  simp only [if_true, keyedBody, List.map_cons, List.map_nil, renamedStatement, renamed, renamedAll,
    Statement.free, Expr.free, Expr.freeAll, keyspace, table, Expr.self, narrowedContext,
    ownName_plain cls cacheKeyName rfl, ownName_plain cls "self" rfl,
    ownName_plain cls "k" rfl, ownName_keyVariable, renamed_typeExpr_free]
  simpa [Plan.bound, Plan.builder] using imported

theorem simple_reads (p : Plan) (simple : p.keyed = false) (settings : Settings.Generator) (field : String) :
    (renamedFunction (ownName cls) (p.function settings field)).reads = [[]] := by
  have names : (renamedFunction (ownName cls) (p.function settings field)).variables =
      "self" :: p.parameters.map (ownName cls) := by
    rw [Function.variables, function_parameters, function_assigned, simple]
    simp
  rw [Function.reads, names, renamedFunction, p.function_body, simple]
  simp [simpleBody, renamedStatement, renamed, Expr.self, Statement.free, Expr.free,
    ownName_plain cls "self" rfl]

theorem builder_read (bound : List String) (name : String) :
    (if bound.contains (ownName cls name) then [] else [ownName cls name]) = [name] ↔
      ownName cls name = name ∧ name ∉ bound := by
  split
  · rename_i taken
    constructor
    · simp
    · rintro ⟨spelled, free⟩
      rw [spelled] at taken
      exact absurd (by simpa using taken) free
  · rename_i free
    constructor
    · intro same
      have same : ownName cls name = name := by simpa using same
      rw [same] at free
      exact ⟨same, by simpa using free⟩
    · rintro ⟨spelled, _⟩
      rw [spelled]

theorem function_reads_iff {m : FactoryMethod} (planned : m.plan = .ok p) (settings : Settings.Generator)
    (field : String) :
    (renamedFunction (ownName cls) (p.function settings field)).reads = p.reads ↔
      (p.keyed = true → ownName cls p.builder = p.builder ∧ p.builder ∉ p.bound cls) := by
  cases keyed : p.keyed with
  | false => simp [simple_reads cls p keyed, Plan.reads, keyed]
  | true =>
    rw [keyed_reads cls planned keyed, Plan.reads, keyed, ← builder_read]
    simp

theorem start_reads_iff (p : Plan) (simple : p.keyed = false) :
    (if p.isAsync then ["AsyncLazyReference"] else []) ++
        (if ["self", "context"].contains (ownName cls p.builder) then [] else [ownName cls p.builder]) =
        p.startReads ↔
      ownName cls p.builder = p.builder ∧ p.builder ∉ ["self", "context"] := by
  rw [← builder_read, Plan.startReads, simple]
  cases p.isAsync <;> simp

theorem assignment_reads (f : SimpleField) :
    (renamedStatement (ownName cls) f.assignment).free ["self", "context"] =
      (if f.isAsync then ["AsyncLazyReference"] else []) ++
        if ["self", "context"].contains (ownName cls f.implementation.importName) then []
        else [ownName cls f.implementation.importName] := by
  cases async : f.isAsync <;>
    simp [SimpleField.assignment, SimpleField.value, async, renamedStatement, renamed, renamedAll, Expr.self,
      Statement.free, Expr.free, Expr.freeAll, renamed_typeExpr_free, ownName_plain cls "self" rfl,
      ownName_plain cls "context" rfl, ownName_plain cls "AsyncLazyReference" rfl]

theorem init_parameters (settings : Settings.Generator) (fs : Fields) :
    (renamedFunction (ownName cls) (initFunction settings fs)).parameters = ["self", "context"] := by
  simp [renamedFunction, initFunction, Function.parameters, ownName_plain cls "self" rfl,
    ownName_plain cls "context" rfl]

theorem init_assigned (settings : Settings.Generator) (fs : Fields) :
    (renamedFunction (ownName cls) (initFunction settings fs)).body.flatMap Statement.assigned = [] := by
  refine List.flatMap_eq_nil_iff.mpr ?_
  intro statement member
  rw [renamedFunction, initFunction_body] at member
  obtain ⟨original, there, rfl⟩ := List.mem_map.mp member
  rcases List.mem_cons.mp there with rfl | field
  · rfl
  · obtain ⟨f, _, rfl⟩ := List.mem_map.mp field
    rfl

theorem init_reads (settings : Settings.Generator) (fs : Fields) :
    (renamedFunction (ownName cls) (initFunction settings fs)).reads =
      [] :: (fs.simple.map (fun f => (if f.isAsync then ["AsyncLazyReference"] else []) ++
        if ["self", "context"].contains (ownName cls f.implementation.importName) then []
        else [ownName cls f.implementation.importName]) ++ fs.maps.map fun _ => ["DaoCache"]) := by
  have names : (renamedFunction (ownName cls) (initFunction settings fs)).variables = ["self", "context"] := by
    rw [Function.variables, init_parameters, init_assigned, List.append_nil]
  have caches : ∀ f : MapField, (renamedStatement (ownName cls) f.assignment).free ["self", "context"] =
      ["DaoCache"] := by
    intro f
    simp [MapField.assignment, renamedStatement, renamed, renamedAll, Expr.self, Statement.free, Expr.free,
      Expr.freeAll, ownName_plain cls "self" rfl, ownName_plain cls "DaoCache" rfl]
  rw [Function.reads, names]
  simp only [renamedFunction, initFunction, List.map_cons, List.map_append, List.map_map]
  refine congrArg₂ List.cons ?_ (congrArg₂ List.append ?_ ?_)
  · simp [renamedStatement, renamed, Expr.self, Statement.free, Expr.free, ownName_plain cls "self" rfl,
      ownName_plain cls "context" rfl]
  · exact List.map_congr_left fun f _ => assignment_reads cls f
  · exact List.map_congr_left fun f _ => caches f

theorem init_reads_iff {d : Declaration} {settings : Settings.Generator} {fs : Fields}
    (all : fs.all = d.fields settings) :
    (renamedFunction (ownName cls) (initFunction settings fs)).reads = d.initReads ↔
      ∀ p ∈ d.plans, p.keyed = false → ownName cls p.builder = p.builder ∧ p.builder ∉ ["self", "context"] := by
  have size := d.fieldNames_length settings
  have simple := @Fields.simple_map fs.taken _ (fun t async => (if async then ["AsyncLazyReference"] else []) ++
    if ["self", "context"].contains (ownName cls t.importName) then [] else [ownName cls t.importName]) _ _ size
  have maps := @Fields.maps_map fs.taken _ ["DaoCache"] _ _ size
  have caches : (d.plans.filter (·.keyed)).map Plan.startReads = (d.plans.filter (·.keyed)).map fun _ => ["DaoCache"] := by
    refine List.map_congr_left fun p member => ?_
    simp [Plan.startReads, (List.mem_filter.mp member).2]
  rw [← Declaration.fields, ← all] at simple maps
  rw [init_reads, simple, maps, Declaration.initReads, caches, List.cons_inj_right, List.append_left_inj,
    List.map_inj_left]
  constructor
  · intro each p member kind
    exact (start_reads_iff cls p kind).mp (each p (List.mem_filter.mpr ⟨member, by simp [kind]⟩))
  · intro each p member
    obtain ⟨there, kind⟩ := List.mem_filter.mp member
    have kind : p.keyed = false := by simpa using kind
    exact (start_reads_iff cls p kind).mpr (each p there kind)

theorem uncaptured_iff (p : Plan) : p.Uncaptured cls ↔
    ("self" :: p.parameters.map (ownName cls)).Nodup ∧
      (p.keyed = true → ownName cls p.builder = p.builder ∧ p.builder ∉ p.bound cls) ∧
      (p.keyed = false → ownName cls p.builder = p.builder ∧ p.builder ∉ ["self", "context"]) := by
  constructor
  · rintro ⟨distinct, spelled, unbound⟩
    refine ⟨distinct, ?_, ?_⟩
    · intro keyed
      refine ⟨spelled, ?_⟩
      simp only [keyed, if_true] at unbound
      simp only [Plan.bound]
      grind
    · intro simple
      simp only [simple] at unbound
      exact ⟨spelled, unbound⟩
  · rintro ⟨distinct, keyed, simple⟩
    cases kind : p.keyed with
    | true =>
      obtain ⟨spelled, unbound⟩ := keyed kind
      refine ⟨distinct, spelled, ?_⟩
      simp only [kind, if_true]
      simp only [Plan.bound] at unbound
      grind
    | false =>
      obtain ⟨spelled, unbound⟩ := simple kind
      refine ⟨distinct, spelled, ?_⟩
      simpa [kind] using unbound

variable (d : Declaration) (settings : Settings.Generator)

theorem keyVariables_unbound : ∀ f ∈ d.functions settings,
    ∀ v ∈ (renamedFunction (ownName cls) f).body.flatMap Statement.assigned,
      v ∉ (renamedFunction (ownName cls) f).parameters := by
  refine (forall_zipWith_iff (fun p member name => iff_true_intro ?_) (d.fieldNames_length settings)).mpr
    fun _ _ => trivial
  obtain ⟨m, _, planned⟩ := Declaration.plans_planned member
  rw [function_assigned, function_parameters]
  intro v assigned
  split at assigned
  · obtain rfl := List.mem_singleton.mp assigned
    exact keyVariable_unbound cls planned
  · cases assigned

theorem parameters_distinct_iff :
    (∀ f ∈ d.functions settings, (renamedFunction (ownName cls) f).parameters.Nodup) ↔
      ∀ p ∈ d.plans, ("self" :: p.parameters.map (ownName cls)).Nodup := by
  refine forall_zipWith_iff (fun p _ name => ?_) (d.fieldNames_length settings)
  rw [function_parameters]

theorem functions_read_iff :
    (d.functions settings).map (fun f => (renamedFunction (ownName cls) f).reads) = d.plans.map Plan.reads ↔
      ∀ p ∈ d.plans, p.keyed = true → ownName cls p.builder = p.builder ∧ p.builder ∉ p.bound cls := by
  rw [Declaration.functions, List.map_zipWith]
  refine zipWith_eq_map_iff (fun p member name => ?_) (d.fieldNames_length settings)
  obtain ⟨m, _, planned⟩ := Declaration.plans_planned member
  exact function_reads_iff cls planned settings name

theorem functions_uncaptured_iff
    (done : (Generator.new d settings report).generate = (g, .ok module)) :
    (∀ f ∈ functionsInClass module, ∀ v ∈ f.body.flatMap Statement.assigned, v ∉ f.parameters) ∧
    ((∀ f ∈ functionsInClass module, f.parameters.Nodup) ∧
        (functionsInClass module).map Function.reads = d.initReads :: d.plans.map Plan.reads ↔
      ∀ p ∈ d.plans, p.Uncaptured module.body.name) := by
  have finished := generate_finished done
  have methods := generate_methods done
  generalize named : module.body.name = cls
  rw [functionsInClass, named, methods]
  simp only [List.map_cons, List.map_map, List.forall_mem_cons, List.forall_mem_map, List.cons.injEq]
  refine ⟨⟨?_, keyVariables_unbound cls d settings⟩, ?_⟩
  · simp [init_assigned]
  · have start := init_reads_iff cls finished.fields
    have reads := functions_read_iff cls d settings
    have distinct := parameters_distinct_iff cls d settings
    rw [init_parameters, start, distinct]
    constructor
    · rintro ⟨⟨_, separate⟩, simple, keyed⟩ p member
      exact (uncaptured_iff cls p).mpr ⟨separate p member, reads.mp keyed p member, simple p member⟩
    · intro all
      have parts := fun p member => (uncaptured_iff cls p).mp (all p member)
      exact ⟨⟨by decide, fun p member => (parts p member).1⟩, fun p member => (parts p member).2.2,
        reads.mpr fun p member => (parts p member).2.1⟩

theorem shop_uncaptured :
    ∃ g module, (Generator.new shop .default .empty).generate = (g, .ok module) ∧
      (∀ p ∈ shop.plans, p.Uncaptured module.body.name) ∧
      (∀ f ∈ functionsInClass module, f.parameters.Nodup) ∧
      (functionsInClass module).map Function.reads = shop.initReads :: shop.plans.map Plan.reads := by
  have checked : ∀ p ∈ shop.plans, p.Uncaptured (className shop.mapper .default) := by decide +kernel
  obtain ⟨g, module, done⟩ := shop_generated
  have checked := (generate_named done).symm ▸ checked
  exact ⟨g, module, done, checked, (functions_uncaptured_iff _ _ done).2.mpr checked⟩

-- A DAO class that is called like the variable of its own key.
def locks : Declaration where
  mapper := ⟨"shop.mappers", "LockMapper", true⟩
  methods :=
    let dao : TypeRef := ⟨"shop.daos", "key", true⟩
    [⟨⟨"LockMapper", "locks", [⟨"keyspace", .text, some .keyspace, none⟩], dao, false⟩, dao⟩]
  members := ["locks"]
  skipped := []

-- The body reads nothing for the class, though it has to build a DAO of it.
theorem locks_captured :
    ∃ g module, (Generator.new locks .default .empty).generate = (g, .ok module) ∧
      (functionsInClass module).map Function.reads = [[[], ["DaoCache"]], [["DaoCacheKey"], []]] ∧
      locks.initReads :: locks.plans.map Plan.reads = [[[], ["DaoCache"]], [["DaoCacheKey"], ["key"]]] := by
  have read : (Generator.new locks .default .empty).generate.2.toOption.map
      (fun module => (functionsInClass module).map Function.reads) =
        some [[[], ["DaoCache"]], [["DaoCacheKey"], []]] := by decide +kernel
  obtain ⟨g, module, done⟩ := generate_of_isOk (by decide +kernel : (Generator.new locks .default .empty).generate.2.isOk)
  exact ⟨g, module, done, by simpa [done, Except.toOption] using read, by decide +kernel⟩

end DaoMapper.Mapper
