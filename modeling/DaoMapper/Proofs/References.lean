import DaoMapper.Proofs.Capture
import DaoMapper.Proofs.Clash

-- What the class of a generated module names, and that this is what is imported.
namespace DaoMapper.Code

def Expr.root : Expr → List String
  | .name id => [id]
  | .field value _ => value.root
  | _ => []

def constructionMethods : List String := ["init", "init_async"]

-- Other methods than those that construct are called on objects.
def Expr.constructs : Expr → List String
  | .name id => [id]
  | .field cls method => if constructionMethods.contains method then cls.root else []
  | _ => []

mutual

def Expr.constructed : Expr → List String
  | .name _ | .literal _ => []
  | .field value _ => value.constructed
  | .call function arguments => function.constructs ++ function.constructed ++ Expr.constructedAll arguments
  | .closure _ body => body.constructed
  | .subscript value index => value.constructed ++ index.constructed

def Expr.constructedAll : List Expr → List String
  | [] => []
  | e :: rest => e.constructed ++ Expr.constructedAll rest

end

def Statement.constructed : Statement → List String
  | .assign target value => value.constructed ++ target.constructed
  | .ret value => value.constructed

def Function.signatureReferences (f : Function) : List String :=
  (f.arguments.flatMap fun a => a.type.elim [] (Expr.free [])) ++ f.returns.free []

def Function.bodyReferences (f : Function) : List String := f.body.flatMap Statement.constructed

def Function.references (f : Function) : List String := f.signatureReferences ++ f.bodyReferences

def Class.references (c : Class) : List String := c.base.free [] ++ c.methods.flatMap Function.references

theorem root_fields (parts : List String) (e : Expr) : (parts.foldl Expr.field e).root = e.root := by
  induction parts generalizing e with
  | nil => rfl
  | cons part rest ih => rw [List.foldl_cons, ih, Expr.root]

theorem constructed_fields (parts : List String) (e : Expr) :
    (parts.foldl Expr.field e).constructed = e.constructed := by
  induction parts generalizing e with
  | nil => rfl
  | cons part rest ih => rw [List.foldl_cons, ih, Expr.constructed]

end DaoMapper.Code

namespace DaoMapper.Mapper

open Code Execution

section Names

variable (t : TypeRef)

@[simp] theorem typeExpr_free : (typeExpr t).free [] = [t.importName] := by
  rw [typeExpr_fields, free_fields]
  rfl

@[simp] theorem typeExpr_root : (typeExpr t).root = [t.importName] := by
  rw [typeExpr_fields, root_fields]
  rfl

@[simp] theorem typeExpr_constructed : (typeExpr t).constructed = [] := by
  rw [typeExpr_fields, constructed_fields]
  rfl

@[simp] theorem construction_constructs (isAsync : Bool) :
    ((typeExpr t).field (initName isAsync)).constructs = [t.importName] := by
  have construction : constructionMethods.contains (initName isAsync) = true := by cases isAsync <;> rfl
  rw [Expr.constructs, if_pos construction, typeExpr_root]

@[simp] theorem compute_constructs (object : Expr) (isAsync : Bool) :
    (object.field (computeName isAsync)).constructs = [] := by
  have other : ¬constructionMethods.contains (computeName isAsync) = true := by cases isAsync <;> decide
  rw [Expr.constructs, if_neg other]

@[simp] theorem narrow_constructs (object : Expr) : (object.field "with_keyspace_and_table").constructs = [] := by
  rw [Expr.constructs, if_neg (by decide)]

end Names

def Declaration.named (d : Declaration) : List TypeRef :=
  d.mapper :: runtimeClass "MapperContext" :: d.plans.flatMap fun p => p.signatureTypes ++ p.bodyTypes

section Methods

variable (p : Plan) (settings : Settings.Generator) (field : String)

theorem function_signature : (p.function settings field).signatureReferences =
    p.method.signature.parameters.map (·.type.importName) ++
      ((if p.isAsync then [awaitableName] else []) ++ [p.method.signature.returns.importName]) := by
  have types : (p.function settings field).returns = returnExpr p.method.signature := rfl
  have parameters : ((p.function settings field).arguments.flatMap fun a => a.type.elim [] (Expr.free [])) =
      p.method.signature.parameters.map (·.type.importName) := by
    simp only [Plan.function, overriding, List.flatMap_cons, List.flatMap_map, Option.elim, typeExpr_free,
      List.nil_append]
    exact List.map_eq_flatMap.symm
  rw [Function.signatureReferences, parameters, types, returnExpr, Plan.isAsync]
  split <;> simp [Expr.free]

theorem mem_signature : name ∈ (p.function settings field).signatureReferences ↔
    ∃ t ∈ p.signatureTypes, t.importName = name := by
  have awaitable : (⟨Draft.awaitableModule, awaitableName, true⟩ : TypeRef).importName = awaitableName := by decide
  rw [function_signature, Plan.signatureTypes]
  cases p.isAsync <;> simp [awaitable, eq_comm] <;> grind

theorem function_builds : (p.function settings field).bodyReferences =
    if p.keyed then [cacheKeyName, p.builder] else [] := by
  rw [Function.bodyReferences, p.function_body]
  cases p.keyed with
  | false => rfl
  | true =>
    have argument (name : Option String) : (argumentOrNone name).constructed = [] := by
      cases name <;> simp [argumentOrNone, Expr.constructed]
    have called : (Expr.name cacheKeyName).constructs = [cacheKeyName] := rfl
    simp [keyedBody, narrowedContext, Expr.self, Statement.constructed, Expr.constructed, Expr.constructedAll,
      argument, called, Plan.builder]

theorem mem_bodyTypes : (∃ t ∈ p.bodyTypes, t.importName = name) ↔
    name ∈ (p.function settings field).bodyReferences ∨ name ∈ p.startReads := by
  have key : (runtimeClass cacheKeyName).importName = cacheKeyName := by decide
  have cache : (runtimeClass "DaoCache").importName = "DaoCache" := by decide
  have reference : (runtimeClass "AsyncLazyReference").importName = "AsyncLazyReference" := by decide
  rw [function_builds, Plan.bodyTypes, Plan.runtimeNames, Plan.startReads]
  cases p.keyed <;> cases p.isAsync <;> simp [key, cache, reference, Plan.builder, eq_comm] <;> grind

end Methods

theorem simple_constructed (f : SimpleField) : f.assignment.constructed =
    (if f.isAsync then ["AsyncLazyReference"] else []) ++ [f.implementation.importName] := by
  have called : (Expr.name "AsyncLazyReference").constructs = ["AsyncLazyReference"] := rfl
  simp only [SimpleField.assignment, SimpleField.value, Statement.constructed, Expr.self]
  split <;> simp [Expr.constructed, Expr.constructedAll, called]

theorem map_constructed (f : MapField) : f.assignment.constructed = ["DaoCache"] := rfl

theorem init_references {d : Declaration} {fs : Fields} (settings : Settings.Generator) (all : fs.all = d.fields settings) :
    (initFunction settings fs).references = "MapperContext" ::
      ((d.plans.filter (!·.keyed)).flatMap Plan.startReads ++ (d.plans.filter (·.keyed)).flatMap Plan.startReads) := by
  have size := d.fieldNames_length settings
  have simple := @Fields.simple_map fs.taken _
    (fun t async => (if async then ["AsyncLazyReference"] else []) ++ [t.importName]) _ _ size
  have maps := @Fields.maps_map fs.taken _ ["DaoCache"] _ _ size
  rw [← Declaration.fields, ← all] at simple maps
  have starts (p : Plan) (kind : p.keyed = false) : p.startReads =
      (if p.isAsync then ["AsyncLazyReference"] else []) ++ [p.method.implementation.importName] := by
    rw [Plan.startReads, kind]
    cases p.isAsync <;> rfl
  have body : (initFunction settings fs).bodyReferences =
      (fs.simple.map fun f => f.assignment.constructed).flatten ++ (fs.maps.map fun f => f.assignment.constructed).flatten := by
    simp only [Function.bodyReferences, initFunction, List.flatMap_cons, List.flatMap_append, List.flatMap_map,
      List.flatten_eq_flatMap]
    rfl
  have caches : (d.plans.filter (·.keyed)).map (fun _ => ["DaoCache"]) = (d.plans.filter (·.keyed)).map Plan.startReads := by
    refine List.map_congr_left fun p member => ?_
    rw [Plan.startReads, if_pos (List.mem_filter.mp member).2]
  have references : (d.plans.filter (!·.keyed)).map (fun p => (if p.isAsync then ["AsyncLazyReference"] else []) ++
      [p.method.implementation.importName]) = (d.plans.filter (!·.keyed)).map Plan.startReads := by
    refine List.map_congr_left fun p member => (starts p ?_).symm
    simpa using (List.mem_filter.mp member).2
  simp only [simple_constructed, map_constructed] at body
  rw [simple, maps, caches, references] at body
  rw [Function.references, body, List.flatMap_def, List.flatMap_def]
  rfl

theorem functions_references (d : Declaration) (settings : Settings.Generator) :
    (d.functions settings).flatMap Function.references = d.plans.flatMap fun p => (p.function settings "").references := by
  have alike (p : Plan) (field : String) : (p.function settings field).references = (p.function settings "").references := by
    rw [Function.references, Function.references, function_signature, function_signature, function_builds, function_builds]
  rw [List.flatMap_def, Declaration.functions, List.map_zipWith]
  simp only [alike]
  rw [zipWith_left _ (fun p => (p.function settings "").references) (d.fieldNames_length settings), ← List.flatMap_def]

theorem mem_starts {d : Declaration} :
    name ∈ (d.plans.filter (!·.keyed)).flatMap Plan.startReads ++ (d.plans.filter (·.keyed)).flatMap Plan.startReads ↔
      ∃ p ∈ d.plans, name ∈ p.startReads := by
  simp only [List.mem_append, List.mem_flatMap, List.mem_filter, ← exists_or]
  refine exists_congr fun p => ?_
  cases p.keyed <;> simp

theorem mem_planned (p : Plan) (settings : Settings.Generator) : (∃ t ∈ p.signatureTypes ++ p.bodyTypes, t.importName = name) ↔
    name ∈ p.startReads ∨ name ∈ (p.function settings "").references := by
  simp only [List.mem_append, or_and_right, exists_or]
  rw [← mem_signature p settings "", mem_bodyTypes p settings "", Function.references, List.mem_append, ← or_assoc, or_comm]

theorem mem_references (done : (Generator.new d settings report).generate = (g, .ok m)) :
    name ∈ m.body.references ↔ ∃ t ∈ d.named, t.importName = name := by
  have finished := generate_finished done
  have base : m.body.base = typeExpr d.mapper := by
    rw [finished.module]
    rfl
  have context : (runtimeClass "MapperContext").importName = "MapperContext" := by decide
  have planned : (∃ t ∈ d.plans.flatMap (fun p => p.signatureTypes ++ p.bodyTypes), t.importName = name) ↔
      (∃ p ∈ d.plans, name ∈ p.startReads) ∨ ∃ p ∈ d.plans, name ∈ (p.function settings "").references := by
    simp only [← exists_or, ← and_or_left, ← mem_planned, List.mem_flatMap]
    constructor
    · rintro ⟨t, ⟨p, there, named⟩, same⟩
      exact ⟨p, there, t, named, same⟩
    · rintro ⟨p, there, t, named, same⟩
      exact ⟨t, ⟨p, there, named⟩, same⟩
  rw [Class.references, base, typeExpr_free, generate_methods done, List.flatMap_cons,
    init_references settings finished.fields, functions_references, List.mem_append, List.mem_append,
    List.mem_singleton, List.mem_cons, mem_starts, Declaration.named, List.exists_mem_cons_iff,
    List.exists_mem_cons_iff, planned, context, List.mem_flatMap, @eq_comm _ name, @eq_comm _ name, or_assoc]

section Covered

variable (cls : String)

theorem function_covered {m : FactoryMethod} (planned : m.plan = .ok p) (settings : Settings.Generator) (field : String) :
    ∀ names ∈ (renamedFunction (ownName cls) (p.function settings field)).reads,
      names ⊆ (p.function settings field).references.map (ownName cls) := by
  have key : ownName cls cacheKeyName = cacheKeyName := ownName_plain cls _ rfl
  intro names member name free
  cases keyed : p.keyed with
  | false =>
    rw [simple_reads cls p keyed, List.mem_singleton] at member
    rw [member] at free
    cases free
  | true =>
    have builds := function_builds p settings field
    rw [keyed, if_pos rfl] at builds
    rw [keyed_reads cls planned keyed] at member
    rw [Function.references, builds, List.map_append, List.map_cons, key]
    refine List.mem_append_right _ ?_
    simp only [List.mem_cons, List.not_mem_nil, or_false] at member
    rcases member with rfl | rfl
    · simpa using Or.inl (List.mem_singleton.mp free)
    · split at free
      · cases free
      · simpa using Or.inr (List.mem_singleton.mp free)

theorem init_covered (settings : Settings.Generator) (fs : Fields) :
    ∀ names ∈ (renamedFunction (ownName cls) (initFunction settings fs)).reads,
      names ⊆ (initFunction settings fs).references.map (ownName cls) := by
  have reference : ownName cls "AsyncLazyReference" = "AsyncLazyReference" := ownName_plain cls _ rfl
  have cache : ownName cls "DaoCache" = "DaoCache" := ownName_plain cls _ rfl
  have inBody {s : Statement} (there : s ∈ (initFunction settings fs).body) :
      s.constructed.map (ownName cls) ⊆ (initFunction settings fs).references.map (ownName cls) := by
    refine List.map_subset _ fun name named => List.mem_append_right _ ?_
    exact List.mem_flatMap.mpr ⟨s, there, named⟩
  intro names member
  rw [init_reads] at member
  rcases List.mem_cons.mp member with rfl | field
  · exact List.nil_subset _
  rcases List.mem_append.mp field with simple | map
  · obtain ⟨f, there, rfl⟩ := List.mem_map.mp simple
    have started : f.assignment ∈ (initFunction settings fs).body :=
      List.mem_cons_of_mem _ (List.mem_append_left _ (List.mem_map_of_mem there))
    have within := inBody started
    rw [simple_constructed, List.map_append] at within
    refine List.Subset.trans ?_ within
    refine List.append_subset.mpr ⟨?_, ?_⟩
    · split <;> simp [reference]
    · split <;> simp
  · obtain ⟨f, there, rfl⟩ := List.mem_map.mp map
    have started : f.assignment ∈ (initFunction settings fs).body :=
      List.mem_cons_of_mem _ (List.mem_append_right _ (List.mem_map_of_mem there))
    have within := inBody started
    rwa [map_constructed, List.map_singleton, cache] at within

theorem class_covered (done : (Generator.new d settings report).generate = (g, .ok m)) :
    ∀ f ∈ functionsInClass m, ∀ names ∈ f.reads, names ⊆ m.body.references.map (ownName m.body.name) := by
  have whole {f : Function} (there : f ∈ m.body.methods) :
      f.references.map (ownName m.body.name) ⊆ m.body.references.map (ownName m.body.name) := by
    refine List.map_subset _ fun name named => List.mem_append_right _ ?_
    exact List.mem_flatMap.mpr ⟨f, there, named⟩
  intro f member names reads
  obtain ⟨written, there, rfl⟩ := List.mem_map.mp member
  refine List.Subset.trans ?_ (whole there)
  rw [generate_methods done] at there
  rcases List.mem_cons.mp there with rfl | function
  · exact init_covered _ settings _ names reads
  · obtain ⟨p, field, planned, rfl⟩ : ∃ p field, p ∈ d.plans ∧ p.function settings field = written := by
      rw [Declaration.functions] at function
      obtain ⟨i, _, same⟩ := List.mem_iff_getElem.mp function
      rw [List.getElem_zipWith] at same
      exact ⟨_, _, List.getElem_mem _, same⟩
    obtain ⟨m, _, planned⟩ := Declaration.plans_planned planned
    exact function_covered _ planned settings field names reads

end Covered

-- What holds of the imports and is kept by each name that is put in holds after a run.
section Keeping

variable {P : Imports → Prop} (kept : ∀ imports module name, P imports → P (imports.add module name))
include kept

theorem need_keeps (before : P imports) (needed : imports.need t = .ok next) : P next := by
  unfold Imports.need at needed
  split at needed
  · cases needed
    exact before
  · split at needed
    · cases needed
    · split at needed
      · cases needed
      · cases needed
        exact kept _ _ _ before

theorem needAll_keeps (before : P imports) (classes : List TypeRef) : P (imports.needAll classes).1 := by
  induction classes generalizing imports with
  | nil => exact before
  | cons t rest ih =>
    unfold Imports.needAll
    split
    · exact before
    · rename_i needed
      exact ih (need_keeps kept before needed)

namespace Draft

theorem importRuntime_keeps {d : Draft} (before : P d.imports) (names : List String) : P (d.importRuntime names).imports := by
  unfold importRuntime
  dsimp only
  generalize d.imports = imports at before
  induction names generalizing imports with
  | nil => exact before
  | cons name rest ih => exact ih _ (kept _ _ _ before)

theorem add_keeps {d : Draft} (before : P d.imports) (settings : Settings.Generator) (p : Plan) :
    P (d.add settings p).1.imports := by
  have needed := needAll_keeps kept before (namedTypes p.method)
  unfold Draft.add
  dsimp only
  split
  · exact needed
  · unfold importAwaitable
    split
    · exact kept _ _ _ needed
    · exact needed

theorem methods_keeps {d : Draft} (before : P d.imports) (settings : Settings.Generator) (declared : List FactoryMethod) :
    P (d.methods settings declared).1.imports := by
  induction declared generalizing d with
  | nil => exact before
  | cons m rest ih =>
    cases planned : m.plan with
    | error s =>
      rw [methods_skip planned]
      exact ih (d := d.skip m s) before
    | ok p =>
      have added := add_keeps kept before settings p
      cases step : d.add settings p with
      | mk next result =>
        rw [step] at added
        cases result with
        | error c => rwa [methods_clash planned step]
        | ok f =>
          rw [methods_add planned step]
          exact ih added

theorem run_keeps {d : Draft} (before : P d.imports) (declaration : Declaration) (settings : Settings.Generator) :
    P (d.run declaration settings).1.imports := by
  by_cases free : settings.contextAttribute ∈ declaration.members
  · rwa [run_taken free]
  cases needed : d.imports.need declaration.mapper with
  | error c => rwa [run_foreign free needed]
  | ok first =>
    have begun : P (d.begun first).imports :=
      importRuntime_keeps kept (d := { d with imports := first }) (need_keeps kept before needed) _
    have through := methods_keeps kept begun settings declaration.methods
    cases ended : (d.begun first).methods settings declaration.methods with
    | mk last result =>
      rw [ended] at through
      cases result with
      | error c => rwa [run_clash free needed ended]
      | ok functions =>
        rw [run_made free needed ended, concluded, importFieldTypes_eq]
        exact importRuntime_keeps kept through _

end Draft

end Keeping

structure Declaration.Importable (d : Declaration) : Prop where
  mapper : d.mapper.isClass = true
  returns : ∀ m ∈ d.methods, m.signature.returns.isClass = true
  implementation : ∀ m ∈ d.methods, m.implementation.isClass = true

instance (d : Declaration) : Decidable d.Importable :=
  decidable_of_iff (_ ∧ _ ∧ _) ⟨fun ⟨m, r, i⟩ => Declaration.Importable.mk m r i, fun ⟨m, r, i⟩ => ⟨m, r, i⟩⟩

section Imported

variable {d : Declaration}

theorem classes_isClass (importable : d.Importable) : ∀ t ∈ d.classes, t.isClass = true := by
  intro t member
  rcases List.mem_cons.mp member with rfl | inside
  · exact importable.mapper
  obtain ⟨p, there, named⟩ := List.mem_flatMap.mp inside
  obtain ⟨m, declared, planned⟩ := Declaration.plans_planned there
  obtain ⟨rfl, accepted, _⟩ := plan_ok planned
  rcases List.mem_cons.mp named with rfl | named
  · exact importable.returns _ declared
  rcases List.mem_cons.mp named with rfl | parameter
  · exact importable.implementation _ declared
  · obtain ⟨q, there, rfl⟩ := List.mem_map.mp parameter
    have allowed := (Overrides.overrides_ok accepted).types q there
    simp only [roleTypes, List.mem_cons, List.not_mem_nil, or_false] at allowed
    rcases allowed with text | identifier
    · rw [text]
      rfl
    · rw [identifier]
      rfl

theorem planned_named {p : Plan} (there : p ∈ d.plans) (named : t ∈ p.signatureTypes ++ p.bodyTypes) : t ∈ d.named :=
  List.mem_cons_of_mem _ (List.mem_cons_of_mem _ (List.mem_flatMap.mpr ⟨p, there, named⟩))

theorem named_known (named : t ∈ d.named) : t ∈ d.classes ∨ (t.module, t.importName) ∈ d.ownImports := by
  have context : (runtimeClass "MapperContext").importName = "MapperContext" := by decide
  have declared {p : Plan} (there : p ∈ d.plans) (named : t ∈ Draft.namedTypes p.method) : t ∈ d.classes :=
    List.mem_cons_of_mem _ (List.mem_flatMap.mpr ⟨p, there, named⟩)
  rcases List.mem_cons.mp named with rfl | named
  · exact .inl List.mem_cons_self
  rcases List.mem_cons.mp named with rfl | named
  · refine .inr ?_
    rw [context]
    exact List.mem_append_left _ List.mem_cons_self
  · obtain ⟨p, there, inside⟩ := List.mem_flatMap.mp named
    rcases List.mem_append.mp inside with signature | body
    · refine (signatureTypes_known p signature).imp (declared there) fun own => ?_
      exact List.mem_append_left _ (List.mem_cons_of_mem _ (List.mem_flatMap.mpr ⟨p, there, own⟩))
    · exact (bodyTypes_known there body).imp_left (declared there)

theorem classes_named (member : t ∈ d.classes) : t ∈ d.named := by
  rcases List.mem_cons.mp member with rfl | inside
  · exact List.mem_cons_self
  obtain ⟨p, there, named⟩ := List.mem_flatMap.mp inside
  refine planned_named there ?_
  rcases List.mem_cons.mp named with rfl | named
  · exact List.mem_append_left _ (List.mem_append_right _ List.mem_cons_self)
  rcases List.mem_cons.mp named with rfl | parameter
  · exact List.mem_append_right _ (List.mem_append_right _ List.mem_cons_self)
  · exact List.mem_append_left _ (List.mem_append_right _ (List.mem_cons_of_mem _ parameter))

theorem ownImports_named (own : (module, name) ∈ d.ownImports) : ∃ t ∈ d.named, t.module = module ∧ t.importName = name := by
  have runtime {p : Plan} (there : p ∈ d.plans) (used : name ∈ p.runtimeNames) :
      ∃ t ∈ d.named, t.module = Draft.runtimeModule ∧ t.importName = name := by
    refine ⟨runtimeClass name, planned_named there ?_, rfl, runtimeNames_plain p name used⟩
    exact List.mem_append_right _ (List.mem_append_left _ (List.mem_map_of_mem used))
  simp only [Declaration.ownImports, List.mem_cons, List.mem_append, List.mem_flatMap, List.mem_map,
    List.cons_append, Prod.mk.injEq] at own
  rcases own with ⟨rfl, rfl⟩ | ⟨p, there, own⟩ | ⟨_, field, rfl, rfl⟩
  · exact ⟨runtimeClass "MapperContext", List.mem_cons_of_mem _ List.mem_cons_self, rfl, by decide⟩
  · unfold Plan.ownImports at own
    split at own
    · rename_i async
      obtain ⟨rfl, rfl⟩ := Prod.mk.inj (List.mem_singleton.mp own)
      refine ⟨⟨Draft.awaitableModule, awaitableName, true⟩, planned_named there ?_, rfl, by decide⟩
      exact List.mem_append_left _ (List.mem_append_left _ (by simp [async]))
    · cases own
  · rcases field with cache | reference
    · split at cache
      · rename_i keyed
        obtain ⟨p, there, keyed⟩ := List.any_eq_true.mp keyed
        exact runtime there (by rwa [Plan.runtimeNames, if_pos keyed])
      · cases cache
    · split at reference
      · rename_i lazy
        obtain ⟨p, there, lazy⟩ := List.any_eq_true.mp lazy
        obtain ⟨simple, async⟩ : p.keyed = false ∧ p.isAsync = true := by simpa using lazy
        exact runtime there (by rwa [Plan.runtimeNames, simple, async])
      · cases reference

theorem imported_named (importable : d.Importable) : (module, name) ∈ d.imported ↔
    ∃ t ∈ d.named, t.isBuiltin = false ∧ t.module = module ∧ t.importName = name := by
  rw [imported_iff]
  constructor
  · rintro (own | ⟨t, member, ⟨foreign, _⟩, place⟩)
    · obtain ⟨t, named, rfl, rfl⟩ := ownImports_named own
      refine ⟨t, named, ?_, rfl, rfl⟩
      simpa [TypeRef.isBuiltin] using runtimeImports_foreign _ (ownImports_known own)
    · exact ⟨t, classes_named member, foreign, place⟩
  · rintro ⟨t, named, foreign, rfl, rfl⟩
    rcases named_known named with member | own
    · exact .inr ⟨t, member, ⟨foreign, classes_isClass importable t member⟩, rfl, rfl⟩
    · exact .inl own

end Imported

-- The import block of a module, against the text of its class. The text names the classes
-- of the declaration and those it needs of the library, and what its functions take from
-- outside is among these names, as the class spells them.
structure ImportsExact (d : Declaration) (m : Module) : Prop where
  references : ∀ name, name ∈ m.body.references ↔ ∃ t ∈ d.named, t.importName = name
  reads : ∀ f ∈ functionsInClass m, ∀ names ∈ f.reads, names ⊆ m.body.references.map (ownName m.body.name)
  -- Imported are the names in the text that stand for more than builtins, each from where its class is.
  imports : ∀ name, (∃ i ∈ m.imports, name ∈ i.names) ↔
    name ∈ m.body.references ∧ ¬∀ t ∈ d.named, t.importName = name → t.isBuiltin = true
  sources : ∀ module name, (∃ i ∈ m.imports, i.module = module ∧ name ∈ i.names) ↔
    ∃ t ∈ d.named, t.isBuiltin = false ∧ t.module = module ∧ t.importName = name
  modules : (m.imports.map (·.module)).Pairwise (· < ·)
  names : ∀ i ∈ m.imports, i.names ≠ [] ∧ i.names.Pairwise (· < ·)

theorem generated_imports (importable : d.Importable)
    (done : (Generator.new d settings report).generate = (g, .ok m)) : ImportsExact d m := by
  have finished := generate_finished done
  have tidy : g.draft.imports.Tidy := by
    have empty : (Draft.initial d settings report).imports.Tidy := List.forall_mem_nil _
    have kept := Draft.run_keeps (P := Imports.Tidy) (fun _ m n tidy => Imports.add_tidy tidy m n) empty d settings
    rwa [generate_run done] at kept
  obtain ⟨modules, names⟩ := Imports.statements_strict (finished.imports.distinct List.nodup_nil) tidy
  have sources (module name : String) : (∃ i ∈ m.imports, i.module = module ∧ name ∈ i.names) ↔
      ∃ t ∈ d.named, t.isBuiltin = false ∧ t.module = module ∧ t.importName = name := by
    rw [imports_written done, imported_named importable]
  rw [← generate_imports done] at modules names
  refine ⟨fun name => mem_references done, class_covered done, fun name => ?_, sources, modules, names⟩
  have written : (∃ i ∈ m.imports, name ∈ i.names) ↔ ∃ t ∈ d.named, t.isBuiltin = false ∧ t.importName = name := by
    constructor
    · rintro ⟨i, there, named⟩
      obtain ⟨t, member, foreign, _, same⟩ := (sources _ _).mp ⟨i, there, rfl, named⟩
      exact ⟨t, member, foreign, same⟩
    · rintro ⟨t, member, foreign, same⟩
      obtain ⟨i, there, _, named⟩ := (sources _ _).mpr ⟨t, member, foreign, rfl, same⟩
      exact ⟨i, there, named⟩
  rw [written, mem_references done]
  simp only [not_forall, Bool.not_eq_true]
  constructor
  · rintro ⟨t, member, foreign, same⟩
    exact ⟨⟨t, member, same⟩, t, member, same, foreign⟩
  · rintro ⟨_, t, member, same, foreign⟩
    exact ⟨t, member, foreign, same⟩

theorem shop_imports :
    shop.Importable ∧ ∃ g m, (Generator.new shop .default .empty).generate = (g, .ok m) ∧ ImportsExact shop m := by
  have importable : shop.Importable := by decide
  obtain ⟨g, m, done⟩ := shop_generated
  exact ⟨importable, g, m, done, generated_imports importable done⟩

end DaoMapper.Mapper
