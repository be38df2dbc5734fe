import DaoMapper.Proofs.Scope
import DaoMapper.Proofs.Service

-- Which classes the names of a generated module lead to, and exactly when they are
-- the ones that were meant.
namespace DaoMapper.Code

def Expr.parts : Expr → List String
  | .name id => [id]
  | .field value part => value.parts ++ [part]
  | _ => []

end DaoMapper.Code

namespace DaoMapper.Mapper

open Code Execution

-- Of the imports that bring a name the last one counts; what none brings is a builtin.
def origin (imports : List Import) (name : String) : String :=
  ((imports.reverse.find? (·.names.contains name)).map (·.module)).getD "builtins"

-- `bound` is what may stand under a name before the imports are asked.
structure Mention where
  type : TypeRef
  spelled : List String
  bound : List String

def Mention.Denotes (imports : List Import) (x : Mention) : Prop :=
  x.spelled = (typeExpr x.type).parts ∧ x.type.importName ∉ x.bound ∧
    origin imports x.type.importName = x.type.module

def TypeRef.mention (t : TypeRef) (cls : String) (bound : List String) : Mention :=
  ⟨t, (renamed (ownName cls) (typeExpr t)).parts, bound⟩

def runtimeClass (name : String) : TypeRef := ⟨Draft.runtimeModule, name, true⟩

def Plan.signatureTypes (p : Plan) : List TypeRef :=
  (if p.isAsync then [⟨Draft.awaitableModule, awaitableName, true⟩] else []) ++
    p.method.signature.returns :: p.method.signature.parameters.map (·.type)

def Plan.runtimeNames (p : Plan) : List String :=
  if p.keyed then [cacheKeyName, "DaoCache"] else if p.isAsync then ["AsyncLazyReference"] else []

def Plan.bodyTypes (p : Plan) : List TypeRef := p.runtimeNames.map runtimeClass ++ [p.method.implementation]

-- Signatures are read while the class is made, after the methods before them.
def signatureMentions (cls : String) (before : List String) : List Plan → List Mention
  | [] => []
  | p :: rest => p.signatureTypes.map (·.mention cls before) ++
    signatureMentions cls (ownName cls p.name :: before) rest

-- Bodies are run when the class has taken its name.
def Declaration.mentions (d : Declaration) (cls : String) : List Mention :=
  ⟨d.mapper, (typeExpr d.mapper).parts, []⟩ :: (runtimeClass "MapperContext").mention cls [] ::
    (signatureMentions cls ["__init__"] d.plans ++
      d.plans.flatMap fun p => p.bodyTypes.map (·.mention cls [cls]))

structure Unambiguous (d : Declaration) (m : Module) : Prop where
  once : ∀ i ∈ m.imports, ∀ j ∈ m.imports, ∀ name ∈ i.names, name ∈ j.names → i.module = j.module
  free : ∀ i ∈ m.imports, m.body.name ∉ i.names
  meant : ∀ x ∈ d.mentions m.body.name, x.type.isClass → x.Denotes m.imports

def Declaration.imported (d : Declaration) : List (String × String) :=
  (d.classes.filter fun t => decide t.Imported).map (fun t => (t.module, t.importName)) ++ d.ownImports

-- What the generator does not look for: a class that is called like a name the
-- module imports for itself, or like the module's class; and a builtin that an
-- import hides.
structure Declaration.Apart (d : Declaration) (cls : String) : Prop where
  own : ∀ t ∈ d.classes, t.Imported → ∀ x ∈ d.ownImports, x.2 = t.importName → x.1 = t.module
  named : ∀ x ∈ d.imported, x.2 ≠ cls
  builtins : ∀ t ∈ d.classes, t.isBuiltin → t.isClass → ∀ x ∈ d.imported, x.2 ≠ t.importName

structure Declaration.Separate (d : Declaration) (cls : String) : Prop extends d.Apart cls where
  inner : ∀ x ∈ d.mentions cls, x.type.isClass →
    x.spelled = (typeExpr x.type).parts ∧ x.type.importName ∉ x.bound

theorem origin_brought {imports : List Import} (there : i ∈ imports) (named : name ∈ i.names)
    (once : ∀ i ∈ imports, ∀ j ∈ imports, name ∈ i.names → name ∈ j.names → i.module = j.module) :
    origin imports name = i.module := by
  unfold origin
  cases found : imports.reverse.find? (·.names.contains name) with
  | none =>
    have absent := List.find?_eq_none.mp found i (List.mem_reverse.mpr there)
    simp [named] at absent
  | some j =>
    have brings : name ∈ j.names := by simpa using List.find?_some found
    exact once j (List.mem_reverse.mp (List.mem_of_find?_eq_some found)) i there brings named

theorem origin_builtins {imports : List Import} (absent : ∀ i ∈ imports, name ∉ i.names) :
    origin imports name = "builtins" := by
  unfold origin
  rw [List.find?_eq_none.mpr]
  · rfl
  · intro i member
    simpa using absent i (List.mem_reverse.mp member)

def runtimeImports : List (String × String) :=
  (Draft.awaitableModule, awaitableName) :: ["MapperContext", cacheKeyName, "DaoCache", "AsyncLazyReference"].map
    (Draft.runtimeModule, ·)

theorem ownImports_known {d : Declaration} (own : x ∈ d.ownImports) : x ∈ runtimeImports := by
  simp only [Declaration.ownImports, List.mem_cons, List.mem_append, List.mem_flatMap, List.mem_map,
    List.cons_append] at own
  rcases own with rfl | ⟨p, _, own⟩ | ⟨name, field, rfl⟩
  · simp [runtimeImports]
  · unfold Plan.ownImports at own
    split at own
    · simp [runtimeImports, List.mem_singleton.mp own]
    · cases own
  · rcases field with cache | reference
    · split at cache
      · simp only [List.mem_cons, List.not_mem_nil, or_false] at cache
        rcases cache with rfl | rfl <;> simp [runtimeImports]
      · cases cache
    · split at reference
      · simp [runtimeImports, List.mem_singleton.mp reference]
      · cases reference

theorem runtimeImports_alike : ∀ x ∈ runtimeImports, ∀ y ∈ runtimeImports, x.2 = y.2 → x.1 = y.1 := by
  decide

theorem runtimeImports_foreign : ∀ x ∈ runtimeImports, x.1 ≠ "builtins" := by
  decide

theorem signatureMentions_type {plans : List Plan} (member : x ∈ signatureMentions cls before plans) :
    ∃ p ∈ plans, x.type ∈ p.signatureTypes := by
  induction plans generalizing before with
  | nil => cases member
  | cons p rest ih =>
    rcases List.mem_append.mp member with first | later
    · obtain ⟨t, there, rfl⟩ := List.mem_map.mp first
      exact ⟨p, List.mem_cons_self, there⟩
    · obtain ⟨q, there, type⟩ := ih later
      exact ⟨q, List.mem_cons_of_mem _ there, type⟩

theorem signatureTypes_known (p : Plan) (named : t ∈ p.signatureTypes) :
    t ∈ Draft.namedTypes p.method ∨ (t.module, t.importName) ∈ p.ownImports := by
  rcases List.mem_append.mp named with awaitable | declared
  · split at awaitable
    · rename_i async
      obtain rfl := List.mem_singleton.mp awaitable
      refine .inr ?_
      rw [Plan.ownImports, if_pos async]
      decide
    · cases awaitable
  · refine .inl ?_
    rcases List.mem_cons.mp declared with rfl | parameter
    · exact List.mem_cons_self
    · exact List.mem_cons_of_mem _ (List.mem_cons_of_mem _ parameter)

theorem runtimeNames_imported {d : Declaration} (there : p ∈ d.plans) (named : name ∈ p.runtimeNames) :
    (Draft.runtimeModule, name) ∈ d.ownImports := by
  refine List.mem_append_right _ (List.mem_map_of_mem ?_)
  unfold Plan.runtimeNames at named
  split at named
  · rename_i keyed
    rw [if_pos (List.any_eq_true.mpr ⟨p, there, keyed⟩)]
    exact List.mem_append_left _ named
  · rename_i simple
    split at named
    · rename_i async
      rw [if_pos (List.any_eq_true.mpr ⟨p, there, by simp [simple, async]⟩ :
        (d.plans.any fun p => !p.keyed && p.isAsync) = true)]
      exact List.mem_append_right _ named
    · cases named

theorem runtimeNames_plain (p : Plan) : ∀ name ∈ p.runtimeNames, (runtimeClass name).importName = name := by
  intro name named
  unfold Plan.runtimeNames at named
  split at named
  · simp only [List.mem_cons, List.not_mem_nil, or_false] at named
    rcases named with rfl | rfl <;> decide
  · split at named
    · obtain rfl := List.mem_singleton.mp named
      decide
    · cases named

theorem bodyTypes_known {d : Declaration} (there : p ∈ d.plans) (named : t ∈ p.bodyTypes) :
    t ∈ Draft.namedTypes p.method ∨ (t.module, t.importName) ∈ d.ownImports := by
  rcases List.mem_append.mp named with runtime | implementation
  · obtain ⟨name, own, rfl⟩ := List.mem_map.mp runtime
    rw [runtimeNames_plain p name own]
    exact .inr (runtimeNames_imported there own)
  · obtain rfl := List.mem_singleton.mp implementation
    exact .inl (List.mem_cons_of_mem _ List.mem_cons_self)

theorem mention_type {d : Declaration} (member : x ∈ d.mentions cls) :
    x.type ∈ d.classes ∨ (x.type.module, x.type.importName) ∈ d.ownImports := by
  have planned : ∀ p ∈ d.plans, ∀ t ∈ Draft.namedTypes p.method, t ∈ d.classes := by
    intro p there t named
    exact List.mem_cons_of_mem _ (List.mem_flatMap.mpr ⟨p, there, named⟩)
  simp only [Declaration.mentions, List.mem_cons, List.mem_append, List.mem_flatMap, List.mem_map] at member
  rcases member with rfl | rfl | signature | ⟨p, there, t, body, rfl⟩
  · exact .inl List.mem_cons_self
  · have named : (runtimeClass "MapperContext").importName = "MapperContext" := by decide
    refine .inr (List.mem_append_left _ ?_)
    simp only [TypeRef.mention, named]
    exact List.mem_cons_self
  · obtain ⟨p, there, type⟩ := signatureMentions_type signature
    rcases signatureTypes_known p type with declared | own
    · exact .inl (planned p there _ declared)
    · refine .inr (List.mem_append_left _ (List.mem_cons_of_mem _ ?_))
      exact List.mem_flatMap.mpr ⟨p, there, own⟩
  · rcases bodyTypes_known there body with declared | own
    · exact .inl (planned p there _ declared)
    · exact .inr own

theorem signature_mentioned (cls : String) (before : List String) {plans : List Plan} (there : p ∈ plans)
    (named : t ∈ p.signatureTypes) : ∃ x ∈ signatureMentions cls before plans, x.type = t := by
  induction plans generalizing before with
  | nil => cases there
  | cons q rest ih =>
    rcases List.mem_cons.mp there with rfl | later
    · exact ⟨_, List.mem_append_left _ (List.mem_map_of_mem named), rfl⟩
    · obtain ⟨x, member, type⟩ := ih (ownName cls q.name :: before) later
      exact ⟨x, List.mem_append_right _ member, type⟩

theorem class_mentioned {d : Declaration} (cls : String) (named : t ∈ d.classes) :
    ∃ x ∈ d.mentions cls, x.type = t := by
  rcases List.mem_cons.mp named with rfl | inside
  · exact ⟨_, List.mem_cons_self, rfl⟩
  · obtain ⟨p, there, named⟩ := List.mem_flatMap.mp inside
    have signature : t ∈ p.signatureTypes → ∃ x ∈ d.mentions cls, x.type = t := by
      intro named
      obtain ⟨x, member, type⟩ := signature_mentioned cls ["__init__"] there named
      exact ⟨x, List.mem_cons_of_mem _ (List.mem_cons_of_mem _ (List.mem_append_left _ member)), type⟩
    rcases List.mem_cons.mp named with rfl | named
    · exact signature (List.mem_append_right _ List.mem_cons_self)
    · rcases List.mem_cons.mp named with rfl | parameter
      · refine ⟨p.method.implementation.mention cls [cls], ?_, rfl⟩
        refine List.mem_cons_of_mem _ (List.mem_cons_of_mem _ (List.mem_append_right _ ?_))
        exact List.mem_flatMap.mpr ⟨p, there, List.mem_map_of_mem (List.mem_append_right _ List.mem_cons_self)⟩
      · exact signature (List.mem_append_right _ (List.mem_cons_of_mem _ parameter))

theorem imported_iff {d : Declaration} : (module, name) ∈ d.imported ↔
    (module, name) ∈ d.ownImports ∨ ∃ t ∈ d.classes, t.Imported ∧ t.module = module ∧ t.importName = name := by
  simp only [Declaration.imported, List.mem_append, List.mem_map, List.mem_filter, decide_eq_true_eq,
    Prod.mk.injEq]
  rw [or_comm]
  simp only [and_assoc]

theorem imports_written (done : (Generator.new d settings report).generate = (g, .ok m)) :
    (∃ i ∈ m.imports, i.module = module ∧ name ∈ i.names) ↔ (module, name) ∈ d.imported := by
  have finished := generate_finished done
  have distinct := finished.imports.distinct List.nodup_nil
  rw [generate_imports done, Imports.statements_hold distinct, finished.imports.holds, imported_iff]
  simp [Imports.Holds]

-- Two sources of a name: only a class and a name of the module's own can clash, for
-- classes have been compared with each other.
theorem imported_once_iff (done : (Generator.new d settings report).generate = (g, .ok m)) :
    (∀ i ∈ m.imports, ∀ j ∈ m.imports, ∀ name ∈ i.names, name ∈ j.names → i.module = j.module) ↔
      ∀ t ∈ d.classes, t.Imported → ∀ x ∈ d.ownImports, x.2 = t.importName → x.1 = t.module := by
  have alike := (generate_finished done).imports.alike
  constructor
  · rintro once t member imported ⟨module, name⟩ own rfl
    obtain ⟨i, written, from_, named⟩ := (imports_written done).mpr (imported_iff.mpr (.inl own))
    obtain ⟨j, written', from', named'⟩ :=
      (imports_written done).mpr (imported_iff.mpr (.inr ⟨t, member, imported, rfl, rfl⟩))
    rw [← from_, ← from']
    exact once i written j written' _ named named'
  · intro apart i written j written' name named named'
    have one := (imports_written done).mp ⟨i, written, rfl, named⟩
    have two := (imports_written done).mp ⟨j, written', rfl, named'⟩
    rcases imported_iff.mp one with own | ⟨t, member, imported, module, same⟩
    · rcases imported_iff.mp two with own' | ⟨u, member', imported', module', same'⟩
      · exact runtimeImports_alike _ (ownImports_known own) _ (ownImports_known own') rfl
      · rw [← module']
        exact apart u member' imported' _ own same'.symm
    · rcases imported_iff.mp two with own' | ⟨u, member', imported', module', same'⟩
      · rw [← module]
        exact (apart t member imported _ own' same.symm).symm
      · rw [← module, ← module']
        exact alike t member u member' imported imported' (same.trans same'.symm)

theorem imported_foreign {d : Declaration} (imported : (module, name) ∈ d.imported) : module ≠ "builtins" := by
  rcases imported_iff.mp imported with own | ⟨t, _, ⟨foreign, _⟩, rfl, _⟩
  · exact runtimeImports_foreign _ (ownImports_known own)
  · simpa [TypeRef.isBuiltin] using foreign

theorem unambiguous_iff (done : (Generator.new d settings report).generate = (g, .ok module)) :
    Unambiguous d module ↔ d.Separate module.body.name := by
  have brought : ∀ {source name : String}, (source, name) ∈ d.imported →
      (∀ i ∈ module.imports, ∀ j ∈ module.imports, ∀ name ∈ i.names, name ∈ j.names → i.module = j.module) →
      origin module.imports name = source := by
    intro source name imported once
    obtain ⟨i, written, rfl, named⟩ := (imports_written done).mpr imported
    exact origin_brought written named fun i one j two => once i one j two name
  constructor
  · rintro ⟨once, free, meant⟩
    refine ⟨⟨(imported_once_iff done).mp once, ?_, ?_⟩, fun x member isClass =>
      ⟨(meant x member isClass).1, (meant x member isClass).2.1⟩⟩
    · rintro ⟨source, name⟩ imported rfl
      obtain ⟨i, written, rfl, named⟩ := (imports_written done).mpr imported
      exact free i written named
    · rintro t member builtin isClass ⟨source, name⟩ imported rfl
      obtain ⟨x, mentioned, rfl⟩ := class_mentioned module.body.name member
      have resolved := (meant x mentioned isClass).2.2
      rw [brought imported once] at resolved
      exact imported_foreign imported (resolved.trans (by simpa [TypeRef.isBuiltin] using builtin))
  · rintro ⟨⟨own, named, builtins⟩, inner⟩
    have once := (imported_once_iff done).mpr own
    refine ⟨once, ?_, ?_⟩
    · intro i written clash
      exact named _ ((imports_written done).mp ⟨i, written, rfl, clash⟩) rfl
    · intro x mentioned isClass
      obtain ⟨spelled, unbound⟩ := inner x mentioned isClass
      refine ⟨spelled, unbound, ?_⟩
      rcases mention_type mentioned with member | runtime
      · cases builtin : x.type.isBuiltin with
        | true =>
          rw [origin_builtins]
          · exact (by simpa [TypeRef.isBuiltin] using builtin : x.type.module = "builtins").symm
          · intro i written clash
            exact builtins _ member builtin isClass _ ((imports_written done).mp ⟨i, written, rfl, clash⟩) rfl
        | false => exact brought (imported_iff.mpr (.inr ⟨x.type, member, ⟨builtin, isClass⟩, rfl, rfl⟩)) once
      · exact brought (imported_iff.mpr (.inl runtime)) once

instance (d : Declaration) (cls : String) : Decidable (d.Apart cls) :=
  decidable_of_iff (_ ∧ _ ∧ _) ⟨fun ⟨o, n, b⟩ => Declaration.Apart.mk o n b, fun ⟨o, n, b⟩ => ⟨o, n, b⟩⟩

instance (d : Declaration) (cls : String) : Decidable (d.Separate cls) :=
  decidable_of_iff (d.Apart cls ∧ _) ⟨fun ⟨a, i⟩ => Declaration.Separate.mk a i, fun ⟨a, i⟩ => ⟨a, i⟩⟩

theorem shop_unambiguous :
    ∃ g module, (Generator.new shop .default .empty).generate = (g, .ok module) ∧
      shop.Separate module.body.name ∧ Unambiguous shop module := by
  have checked : shop.Separate (className shop.mapper .default) := by decide +kernel
  obtain ⟨g, module, done⟩ := shop_generated
  have checked := (generate_named done).symm ▸ checked
  exact ⟨g, module, done, checked, (unambiguous_iff done).mpr checked⟩

-- A DAO class that is called like the cache it is kept in.
def caches : Declaration where
  mapper := ⟨"shop.mappers", "CacheMapper", true⟩
  methods :=
    let dao : TypeRef := ⟨"shop.daos", "DaoCache", true⟩
    [⟨⟨"CacheMapper", "caches", [⟨"keyspace", .text, some .keyspace, none⟩], dao, false⟩, dao⟩]
  members := ["caches"]
  skipped := []

theorem caches_ambiguous :
    ∃ g module, (Generator.new caches .default .empty).generate = (g, .ok module) ∧
      (∃ i ∈ module.imports, i.module = "daogen.runtime" ∧ "DaoCache" ∈ i.names) ∧
      (∃ i ∈ module.imports, i.module = "shop.daos" ∧ "DaoCache" ∈ i.names) ∧ ¬ Unambiguous caches module := by
  obtain ⟨g, module, done⟩ := generate_of_isOk (by decide +kernel : (Generator.new caches .default .empty).generate.2.isOk)
  have runtime := (imports_written done).mpr (by decide +kernel : ("daogen.runtime", "DaoCache") ∈ caches.imported)
  have shop := (imports_written done).mpr (by decide +kernel : ("shop.daos", "DaoCache") ∈ caches.imported)
  refine ⟨g, module, done, runtime, shop, ?_⟩
  intro unambiguous
  obtain ⟨i, written, from_, named⟩ := runtime
  obtain ⟨j, written', from', named'⟩ := shop
  have same := unambiguous.once i written j written' "DaoCache" named named'
  simp [from_, from'] at same

end DaoMapper.Mapper
