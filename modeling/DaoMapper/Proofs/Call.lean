import DaoMapper.Proofs.Arguments
import DaoMapper.Proofs.Capture
import DaoMapper.Proofs.Evaluation

-- What a call of a generated method does: its arguments give a key, and the key what
-- the field of the method keeps for it.
namespace DaoMapper.Mapper

open Execution
open Interface (Slot)

def Plan.fallbacks (p : Plan) : List (Option Literal) :=
  let defaults := p.method.signature.parameters.filterMap fun q => q.default?
  List.replicate (p.method.signature.parameters.length - defaults.length) none ++ defaults.map some

def Plan.slots (p : Plan) (cls : String) : List (Slot Object) :=
  (p.method.signature.parameters.zip p.fallbacks).map fun (q, l) =>
    ⟨inClass cls q.name, .positional, l.map .literal⟩

def Plan.argument (p : Plan) (cls : String) (bound : Variables) (role : Role) : Object :=
  ((p.method.signature.parameters.find? (·.role == some role)).bind fun q =>
    bound.get? (inClass cls q.name)).getD nullObject

def readName (o : Object) : Except Failure (Option Cql.Identifier) :=
  match asNameArg o with
  | none => .error .unfit
  | some a => a.resolve.mapError .badName

def Plan.keyOf (p : Plan) (cls : String) (bound : Variables) : Except Failure Cql.CacheKey := do
  let keyspace ← readName (p.argument cls bound .keyspace)
  let table ← readName (p.argument cls bound .table)
  return ⟨keyspace, table⟩

def Plan.key (p : Plan) (cls : String) (arguments : List Object) (keywords : Variables) :
    Except Failure Cql.CacheKey :=
  match Slot.bind? (p.slots cls) arguments keywords with
  | none => .error .unfit
  | some bound => p.keyOf cls bound

def wholeKey : Cql.CacheKey := ⟨none, none⟩

theorem slots_positional (p : Plan) (cls : String) : Slot.Positional (p.slots cls) := by
  intro s member
  obtain ⟨_, _, rfl⟩ := List.mem_map.mp member
  rfl

theorem fallbacks_length (p : Plan) : p.fallbacks.length = p.method.signature.parameters.length := by
  have few := List.length_filterMap_le (fun q : Parameter => q.default?) p.method.signature.parameters
  simp only [Plan.fallbacks, List.length_append, List.length_replicate, List.length_map]
  omega

theorem slots_names (p : Plan) (cls : String) : (p.slots cls).map (·.name) = p.parameters.map (inClass cls) := by
  have zipped := List.map_fst_zip (Nat.le_of_eq (fallbacks_length p).symm)
  unfold Plan.slots Plan.parameters
  conv_rhs => rw [← zipped]
  simp [List.map_map, Function.comp_def]

theorem overriding_slots (p : Plan) (receiver : rename "self" = "self") (body : List Code.Statement) :
    Function.slots (renamedFunction rename (overriding p.method.signature body)) =
      ⟨"self", .positional, none⟩ :: (p.method.signature.parameters.zip p.fallbacks).map fun (q, l) =>
        ⟨rename q.name, .positional, l.map .literal⟩ := by
  have few := List.length_filterMap_le (fun q : Parameter => q.default?) p.method.signature.parameters
  have more : p.method.signature.parameters.length + 1 -
      (p.method.signature.parameters.filterMap fun q => q.default?).length =
      p.method.signature.parameters.length -
        (p.method.signature.parameters.filterMap fun q => q.default?).length + 1 := by
    omega
  simp only [Function.slots, renamedFunction, overriding, List.map_cons, List.length_cons,
    List.length_map, more, List.replicate_succ, List.cons_append, List.zip_cons_cons,
    receiver, Plan.fallbacks]
  simp [List.zip_map_left, List.map_map, Function.comp_def]

theorem function_slots (p : Plan) (cls : String) (settings : Settings.Generator) (field : String) :
    Function.slots (renamedFunction (inClass cls) (p.function settings field)) =
      ⟨"self", .positional, none⟩ :: p.slots cls := overriding_slots p (inClass_plain cls "self" rfl rfl) _

theorem key_bare (p : Plan) (cls : String) (bare : p.method.signature.parameters = [])
    (given : p.key cls arguments keywords = .ok key) : key = wholeKey := by
  unfold Plan.key at given
  split at given
  · cases given
  · simp only [Plan.keyOf, Plan.argument, bare, List.find?_nil, Option.bind_none, Option.getD_none] at given
    cases given
    rfl

end DaoMapper.Mapper

namespace DaoMapper.Mapper

open Execution

-- What a class takes the names of a method for keeps them apart: no parameter takes the
-- place of the receiver or of the class of keys, and the class that builds the DAOs keeps
-- its name and is called like nothing that is bound where it stands.
structure Plan.Unshadowed (p : Plan) (cls : String) : Prop where
  distinct : ("self" :: p.parameters.map (inClass cls)).Nodup
  spelled : inClass cls p.builder = p.builder
  unbound : p.builder ∉ if p.keyed then
    ["k", keyVariable p.overrides, "self"] ++ p.parameters.map (inClass cls) else ["self", "context"]
  imported : p.keyed = true → cacheKeyName ∉ p.parameters.map (inClass cls)

instance (p : Plan) (cls : String) : Decidable (p.Unshadowed cls) :=
  decidable_of_iff (_ ∧ _ ∧ _ ∧ _)
    ⟨fun ⟨d, s, u, i⟩ => Plan.Unshadowed.mk d s u i, fun ⟨d, s, u, i⟩ => ⟨d, s, u, i⟩⟩

theorem inClass_keyVariable (cls : String) (o : Overrides) : inClass cls (keyVariable o) = keyVariable o := by
  have spelled := keyVariable_spelled o
  simp only [List.mem_cons, List.not_mem_nil, or_false] at spelled
  rcases spelled with same | same | same <;> rw [same] <;> exact inClass_plain cls _ rfl rfl

end DaoMapper.Mapper

namespace DaoMapper.Execution

open Code
open Interface (ClassId Hierarchy Slot)
open Mapper

-- A mapper in use; `narrows` tells whether any of its methods takes a key.
structure Instance where
  module : Loaded
  number : Nat
  contextName : String
  outer : Context
  narrows : Bool

def Instance.fields (i : Instance) (heap : Heap) : Variables := heap.mappers[i.number]?.getD []

structure Instance.Seated (i : Instance) (heap : Heap) : Prop where
  first : heap.contexts[0]? = some i.outer
  there : i.number < heap.mappers.length
  context : i.narrows = true → (i.fields heap).get? i.contextName = some (.context 0)

theorem fields_there {i : Instance} (there : i.number < heap.mappers.length) :
    heap.mappers[i.number]? = some (i.fields heap) := by
  simp [Instance.fields, List.getElem?_eq_getElem there]

-- A computation that builds a DAO of a class in the context of a key, or says what
-- is to be awaited for it. It changes nothing but the contexts before it builds.
def Instance.Yields (i : Instance) (c : ClassId) (key : Cql.CacheKey) (isAsync : Bool) (make : Eval Object) : Prop :=
  ∀ heap, i.Seated heap → ∃ n more, Placed i.outer key (heap.contexts ++ more) n ∧
    ends make heap =
      if isAsync then (.ok (.coroutine c n), { heap with contexts := heap.contexts ++ more })
      else ends (construct i.module.hierarchy c n) { heap with contexts := heap.contexts ++ more }

structure Stand where
  plan : Plan
  field : String
  type : ClassId

structure Stand.Ready (x : Stand) (m : Loaded) (cls : String) (settings : Settings.Generator) : Prop where
  planned : ∃ method : FactoryMethod, method.plan = .ok x.plan
  function : m.function? x.plan.name = some (renamedFunction (inClass cls) (x.plan.function settings x.field))
  unshadowed : x.plan.Unshadowed cls
  spelled : renamed (inClass cls) (typeExpr x.plan.method.implementation) = typeExpr x.plan.method.implementation
  known : m.global? x.plan.builder =
    (m.hierarchy.classAt? x.plan.method.implementation.module x.plan.builder).map .cls
  found : m.hierarchy.find? x.plan.method.implementation = some x.type
  builds : Builds m.hierarchy x.type x.plan.isAsync
  cacheKey : x.plan.keyed = true → m.global? cacheKeyName = some (.runtime .cacheKey)
  cache : x.plan.keyed = true → m.global? "DaoCache" = some (.runtime .cache)
  reference : x.plan.keyed = false → x.plan.isAsync = true →
    m.global? "AsyncLazyReference" = some (.runtime .reference)

theorem renamed_narrowedContext (cls name : String) :
    renamed (inClass cls) (narrowedContext name) = narrowedContext (inClass cls name) := by
  simp [narrowedContext, Expr.self, renamed, renamedAll, inClass_plain cls "self" rfl rfl, inClass_plain cls "k" rfl rfl,
    inClass_plain cls "with_keyspace_and_table" rfl rfl, inClass_plain cls "keyspace_id" rfl rfl,
    inClass_plain cls "table_id" rfl rfl]

theorem inClass_initName (cls : String) (isAsync : Bool) : inClass cls (initName isAsync) = initName isAsync := by
  cases isAsync <;> exact inClass_plain cls _ rfl rfl

section

variable {i : Instance} {bound : Variables} {invoke : Object → List Object → Eval Object}

theorem ends_narrowedContext (seated : i.Seated heap) (narrows : i.narrows = true)
    (receiver : bound.get? "self" = some (.mapper i.number))
    (given : bound.get? "k" = some (.key key)) :
    ∃ n more, Placed i.outer key (heap.contexts ++ more) n ∧
      ends (eval i.module invoke bound (narrowedContext i.contextName)) heap =
        (.ok (.context n), { heap with contexts := heap.contexts ++ more }) := by
  obtain ⟨n, more, narrowed, placed⟩ := ends_narrow seated.first key
  refine ⟨n, more, placed, ?_⟩
  have context : ends (eval i.module invoke bound (.self i.contextName)) heap = (.ok (.context 0), heap) := by
    rw [Expr.self, ends_field (ends_variable receiver)]
    exact ends_ownField (fields_there seated.there) (seated.context narrows)
  have function : ends (eval i.module invoke bound (.field (.self i.contextName) "with_keyspace_and_table")) heap =
      (.ok (.bound (.context 0) "with_keyspace_and_table"), heap) := by
    rw [ends_field context]
    rfl
  have keyspace : ends (eval i.module invoke bound (.field (.name "k") "keyspace_id")) heap =
      (.ok (ofIdentifier? key.keyspace), heap) := by
    rw [ends_field (ends_variable given)]
    rfl
  have table : ends (eval i.module invoke bound (.field (.name "k") "table_id")) heap =
      (.ok (ofIdentifier? key.table), heap) := by
    rw [ends_field (ends_variable given)]
    rfl
  rw [narrowedContext, ends_call function (ends_two keyspace table) (by intro _ _ _ same; cases same)]
  exact narrowed

theorem ends_closure (ready : Stand.Ready x i.module cls settings)
    (sized : parameters.length = arguments.length)
    (free : Variables.get? ((parameters.zip arguments).reverse ++ bound) x.plan.builder = none)
    (context : ∃ n more, Placed i.outer key (heap.contexts ++ more) n ∧
      ends (eval i.module (invokeAt i.module 2) ((parameters.zip arguments).reverse ++ bound) argument) heap =
        (.ok (.context n), { heap with contexts := heap.contexts ++ more })) :
    ∃ n more, Placed i.outer key (heap.contexts ++ more) n ∧
      ends (Execution.invoke i.module (.closure parameters
        (.call (.field (typeExpr x.plan.method.implementation) (initName x.plan.isAsync)) [argument]) bound)
          arguments) heap =
        if x.plan.isAsync then (.ok (.coroutine x.type n), { heap with contexts := heap.contexts ++ more })
        else ends (construct i.module.hierarchy x.type n) { heap with contexts := heap.contexts ++ more } := by
  obtain ⟨n, more, placed, argument⟩ := context
  refine ⟨n, more, placed, ?_⟩
  rw [Execution.invoke, invokeAt, if_neg (not_not_intro sized)]
  exact ends_construction free ready.known ready.found ready.builds argument

def Stand.scope (x : Stand) (i : Instance) (given : Variables) (key : Cql.CacheKey) : Variables :=
  (keyVariable x.plan.overrides, .key key) :: ("self", .mapper i.number) :: given

def Stand.construction (x : Stand) (argument : Expr) : Expr :=
  .call (.field (typeExpr x.plan.method.implementation) (initName x.plan.isAsync)) [argument]

theorem self_scope (x : Stand) (i : Instance) (given : Variables) (key : Cql.CacheKey) :
    (x.scope i given key).get? "self" = some (.mapper i.number) := by
  have spelled := keyVariable_spelled x.plan.overrides
  rw [Stand.scope, Variables.get?_cons_other]
  · exact Variables.get?_cons_same _ _
  · intro same
    rw [← same] at spelled
    simp at spelled

def Stand.factory (x : Stand) (i : Instance) (given : Variables) (key : Cql.CacheKey) : Object :=
  .closure ["k"] (x.construction (narrowedContext i.contextName)) (x.scope i given key)

theorem keyed_yields (ready : Stand.Ready x i.module cls settings) (narrows : i.narrows = true)
    (keyed : x.plan.keyed = true) (named : given.map (·.1) = x.plan.parameters.map (inClass cls))
    (key : Cql.CacheKey) :
    i.Yields x.type key x.plan.isAsync (Execution.invoke i.module (x.factory i given key) [.key key]) := by
  intro heap seated
  refine ends_closure ready rfl ?_ ?_
  · have unbound := ready.unshadowed.unbound
    simp only [keyed, if_true] at unbound
    rw [Variables.get?_none]
    simpa [Stand.scope, named] using unbound
  · refine ends_narrowedContext seated narrows ?_ (Variables.get?_cons_same _ _)
    exact (Variables.get?_cons_other _ (by decide)).trans (self_scope x i given key)

theorem simple_yields (ready : Stand.Ready x i.module cls settings) (simple : x.plan.keyed = false) :
    i.Yields x.type wholeKey x.plan.isAsync (Execution.invoke i.module
      (.closure [] (x.construction (.name "context")) [("self", .mapper i.number), ("context", .context 0)]) []) := by
  intro heap seated
  refine ends_closure ready rfl ?_ ?_
  · have unbound := ready.unshadowed.unbound
    simp only [simple] at unbound
    rw [Variables.get?_none]
    simpa using unbound
  · refine ⟨0, [], ⟨?_, fun _ => rfl⟩, ?_⟩
    · rw [List.append_nil]
      exact seated.first
    · rw [List.append_nil]
      exact ends_variable rfl

theorem ends_newKey (keyspace table : Object) (heap : Heap) :
    ends (newKey keyspace table) heap =
      match (do return ⟨← readName keyspace, ← readName table⟩ : Except Failure Cql.CacheKey) with
      | .ok key => (.ok (.key key), heap)
      | .error f => (.error f, heap) := by
  unfold newKey readName
  dsimp only
  cases asNameArg keyspace with
  | none => rfl
  | some a =>
    dsimp only
    cases a.resolve with
    | error e => rfl
    | ok k =>
      cases asNameArg table with
      | none => rfl
      | some b =>
        dsimp only
        cases b.resolve <;> rfl

theorem ends_callMethod (ready : Stand.Ready x i.module cls settings)
    (unclaimed : (i.fields heap).get? x.plan.name = none) (arguments : List Object) (keywords : Variables) :
    ends (callMethod i.module i.number x.plan.name arguments keywords) heap =
      match Slot.bind? (x.plan.slots cls) arguments keywords with
      | none => (.error .unfit, heap)
      | some given => ends (execute i.module (("self", .mapper i.number) :: given)
          (renamedFunction (inClass cls) (x.plan.function settings x.field)).body) heap := by
  have found : mapperMember? i.module (i.fields heap) i.number x.plan.name =
      some (.bound (.mapper i.number) x.plan.name) := by
    simp [mapperMember?, unclaimed, ready.function]
  have foreign : "self" ∉ (x.plan.slots cls).map (·.name) := by
    rw [slots_names]
    exact (List.nodup_cons.mp ready.unshadowed.distinct).1
  unfold callMethod
  rw [ends_bind_ok (ends_mapperMember found)]
  simp only [ready.function, callFunction, function_slots,
    Slot.bind_receiver (r := ⟨"self", .positional, none⟩) rfl (slots_positional _ _) foreign]
  cases Slot.bind? (x.plan.slots cls) arguments keywords <;> rfl

theorem ends_argument (i : Instance) (invoke : Object → List Object → Eval Object) (heap : Heap) {x : Stand}
    (planned : ∃ method : FactoryMethod, method.plan = .ok x.plan) (role : Role)
    (named : given.map (·.1) = x.plan.parameters.map (inClass cls))
    (kept : ∀ name ∈ x.plan.parameters.map (inClass cls), bound.get? name = Variables.get? given name) :
    ends (eval i.module invoke bound (renamed (inClass cls) (argumentOrNone (x.plan.overrides.get role)))) heap =
      (.ok (x.plan.argument cls given role), heap) := by
  obtain ⟨method, planned⟩ := planned
  obtain ⟨rfl, accepted, _⟩ := plan_ok planned
  rw [Overrides.overrides_get accepted, Plan.argument]
  cases found : x.plan.method.signature.parameters.find? (·.role == some role) with
  | none => rfl
  | some q =>
    have declared : inClass cls q.name ∈ x.plan.parameters.map (inClass cls) :=
      List.mem_map_of_mem (List.mem_map_of_mem (List.mem_of_find?_eq_some found))
    cases value : Variables.get? given (inClass cls q.name) with
    | none =>
      rw [Variables.get?_none, named] at value
      exact absurd declared value
    | some o =>
      have there := (kept _ declared).trans value
      simp only [Option.map_some, argumentOrNone, renamed, Option.bind_some, value, Option.getD_some]
      exact ends_variable there

theorem renamed_keyedBody (ready : Stand.Ready x m cls settings) (name : String) :
    (keyedBody x.field x.plan.method.implementation x.plan.isAsync x.plan.overrides name).map
        (renamedStatement (inClass cls)) =
      [.assign (.name (keyVariable x.plan.overrides)) (.call (.name cacheKeyName)
          [renamed (inClass cls) (argumentOrNone x.plan.overrides.keyspace),
            renamed (inClass cls) (argumentOrNone x.plan.overrides.table)]),
        .ret (.call (.field (.self (inClass cls x.field)) (computeName x.plan.isAsync))
          [.name (keyVariable x.plan.overrides),
            .closure ["k"] (x.construction (narrowedContext (inClass cls name)))])] := by
  have compute : inClass cls (computeName x.plan.isAsync) = computeName x.plan.isAsync := by
    cases x.plan.isAsync <;> exact inClass_plain cls _ rfl rfl
  simp [keyedBody, Stand.construction, renamedStatement, renamed, renamedAll, Expr.self, renamed_narrowedContext,
    inClass_keyVariable, compute, ready.spelled, inClass_initName, inClass_plain cls cacheKeyName rfl rfl,
    inClass_plain cls "self" rfl rfl, inClass_plain cls "k" rfl rfl]

theorem ends_key (invoke : Object → List Object → Eval Object) (ready : Stand.Ready x i.module cls settings)
    (keyed : x.plan.keyed = true)
    (named : given.map (·.1) = x.plan.parameters.map (inClass cls)) (heap : Heap) :
    ends (eval i.module invoke (("self", .mapper i.number) :: given) (.call (.name cacheKeyName)
        [renamed (inClass cls) (argumentOrNone x.plan.overrides.keyspace),
          renamed (inClass cls) (argumentOrNone x.plan.overrides.table)])) heap =
      match x.plan.keyOf cls given with
      | .ok key => (.ok (.key key), heap)
      | .error f => (.error f, heap) := by
  have kept : ∀ name ∈ x.plan.parameters.map (inClass cls),
      Variables.get? (("self", Object.mapper i.number) :: given) name = Variables.get? given name := by
    intro name declared
    refine Variables.get?_cons_other _ ?_
    rintro rfl
    exact (List.nodup_cons.mp ready.unshadowed.distinct).1 declared
  have keyspace := ends_argument i invoke heap ready.planned .keyspace named kept
  have table := ends_argument i invoke heap ready.planned .table named kept
  simp only [Overrides.get] at keyspace table
  have runtime : ends (eval i.module invoke (("self", .mapper i.number) :: given) (.name cacheKeyName)) heap =
      (.ok (.runtime .cacheKey), heap) := by
    refine ends_global ?_ (ready.cacheKey keyed)
    have receiver : cacheKeyName ≠ "self" := by decide
    rw [Variables.get?_none, List.map_cons, named]
    exact List.not_mem_cons_of_ne_of_not_mem receiver (ready.unshadowed.imported keyed)
  rw [ends_call runtime (ends_two keyspace table) (by intro _ _ _ same; cases same)]
  exact ends_newKey _ _ heap

theorem body_ends_key (ready : Stand.Ready x i.module cls settings) (keyed : x.plan.keyed = true)
    (named : given.map (·.1) = x.plan.parameters.map (inClass cls)) (heap : Heap) :
    ends (execute i.module (("self", .mapper i.number) :: given)
        (renamedFunction (inClass cls) (x.plan.function settings x.field)).body) heap =
      match x.plan.keyOf cls given with
      | .ok key => ends (evaluate i.module (x.scope i given key)
          (.call (.field (.self (inClass cls x.field)) (computeName x.plan.isAsync))
            [.name (keyVariable x.plan.overrides),
              .closure ["k"] (x.construction (narrowedContext (inClass cls settings.contextAttribute)))])) heap
      | .error f => (.error f, heap) := by
  have value := ends_key (Execution.invoke i.module) ready keyed named heap
  rw [renamedFunction, x.plan.function_body, keyed]
  simp only [if_true]
  rw [renamed_keyedBody ready, execute, evaluate, ends_bind, value]
  cases x.plan.keyOf cls given with
  | error f => rfl
  | ok key => rfl

theorem call_refused (ready : Stand.Ready x i.module cls settings)
    (unclaimed : (i.fields heap).get? x.plan.name = none)
    (refused : x.plan.key cls arguments keywords = .error f) :
    ends (callMethod i.module i.number x.plan.name arguments keywords) heap = (.error f, heap) := by
  rw [ends_callMethod ready unclaimed]
  unfold Plan.key at refused
  cases fits : Slot.bind? (x.plan.slots cls) arguments keywords with
  | none =>
    simp only [fits] at refused
    cases refused
    rfl
  | some given =>
    simp only [fits] at refused
    cases keyed : x.plan.keyed with
    | false =>
      obtain ⟨method, planned⟩ := ready.planned
      obtain rfl := (plan_ok planned).1
      have bare := (plan_bare planned).mp keyed
      simp only [Plan.keyOf, Plan.argument, bare, List.find?_nil, Option.bind_none, Option.getD_none] at refused
      cases refused
    | true =>
      have named := (Slot.bind_names (slots_positional x.plan cls) fits).trans (slots_names x.plan cls)
      simp only [body_ends_key ready keyed named heap, refused]

theorem call_simple (ready : Stand.Ready x i.module cls settings) (there : i.number < heap.mappers.length)
    (unclaimed : (i.fields heap).get? x.plan.name = none) (simple : x.plan.keyed = false)
    (accepted : x.plan.key cls arguments keywords = .ok key)
    (held : (i.fields heap).get? (inClass cls x.field) = some o) :
    ends (callMethod i.module i.number x.plan.name arguments keywords) heap = (.ok o, heap) := by
  rw [ends_callMethod ready unclaimed]
  unfold Plan.key at accepted
  cases fits : Slot.bind? (x.plan.slots cls) arguments keywords with
  | none => simp [fits] at accepted
  | some given =>
    have receiver : Variables.get? (("self", Object.mapper i.number) :: given) "self" = some (.mapper i.number) :=
      Variables.get?_cons_same _ _
    have body : (renamedFunction (inClass cls) (x.plan.function settings x.field)).body =
        [.ret (.self (inClass cls x.field))] := by
      rw [renamedFunction, x.plan.function_body, simple]
      simp [simpleBody, renamedStatement, renamed, Expr.self, inClass_plain cls "self" rfl rfl]
    simp only [body, execute, evaluate, Expr.self]
    rw [ends_field (ends_variable receiver)]
    exact ends_ownField (fields_there there) held

theorem call_asks (ready : Stand.Ready x i.module cls settings) (there : i.number < heap.mappers.length)
    (unclaimed : (i.fields heap).get? x.plan.name = none) (keyed : x.plan.keyed = true)
    (context : i.contextName = inClass cls settings.contextAttribute)
    (accepted : x.plan.key cls arguments keywords = .ok key)
    (held : (i.fields heap).get? (inClass cls x.field) = some o) :
    ∃ given, given.map (·.1) = x.plan.parameters.map (inClass cls) ∧
      ends (callMethod i.module i.number x.plan.name arguments keywords) heap =
        ends (evaluate i.module (x.scope i given key) (.call (.field (.self (inClass cls x.field))
          (computeName x.plan.isAsync)) [.name (keyVariable x.plan.overrides),
            .closure ["k"] (x.construction (narrowedContext i.contextName))])) heap ∧
      ends (eval i.module (Execution.invoke i.module) (x.scope i given key)
        (.field (.self (inClass cls x.field)) (computeName x.plan.isAsync))) heap =
          ends (member i.module o (computeName x.plan.isAsync)) heap := by
  rw [ends_callMethod ready unclaimed]
  unfold Plan.key at accepted
  cases fits : Slot.bind? (x.plan.slots cls) arguments keywords with
  | none => simp [fits] at accepted
  | some given =>
    simp only [fits] at accepted
    have named := (Slot.bind_names (slots_positional x.plan cls) fits).trans (slots_names x.plan cls)
    refine ⟨given, named, ?_, ?_⟩
    · simp only [body_ends_key ready keyed named heap, accepted, ← context]
    · have own : ends (eval i.module (Execution.invoke i.module) (x.scope i given key)
          (.self (inClass cls x.field))) heap = (.ok o, heap) := by
        rw [Expr.self, ends_field (ends_variable (self_scope x i given key))]
        exact ends_ownField (fields_there there) held
      rw [ends_field own]

theorem call_keyed (ready : Stand.Ready x i.module cls settings) (there : i.number < heap.mappers.length)
    (unclaimed : (i.fields heap).get? x.plan.name = none) (keyed : x.plan.keyed = true)
    (context : i.contextName = inClass cls settings.contextAttribute)
    (accepted : x.plan.key cls arguments keywords = .ok key)
    (held : (i.fields heap).get? (inClass cls x.field) = some (.cache c)) :
    ∃ given, given.map (·.1) = x.plan.parameters.map (inClass cls) ∧
      ends (callMethod i.module i.number x.plan.name arguments keywords) heap =
        ends (computeIfAbsent c key (if x.plan.isAsync then newReference (x.factory i given key) [.key key]
          else Execution.invoke i.module (x.factory i given key) [.key key])) heap := by
  obtain ⟨given, named, called, asked⟩ := call_asks ready there unclaimed keyed context accepted held
  refine ⟨given, named, called.trans ?_⟩
  have cache : ends (member i.module (.cache c) (computeName x.plan.isAsync)) heap =
      (.ok (.bound (.cache c) (computeName x.plan.isAsync)), heap) := by
    cases x.plan.isAsync <;> rfl
  have variable_ : (x.scope i given key).get? (keyVariable x.plan.overrides) = some (.key key) :=
    Variables.get?_cons_same _ _
  have closure : ends (eval i.module (Execution.invoke i.module) (x.scope i given key)
      (.closure ["k"] (x.construction (narrowedContext i.contextName)))) heap = (.ok (x.factory i given key), heap) := rfl
  rw [evaluate, ends_call (asked.trans cache) (ends_two (ends_variable variable_) closure)
    (by intro _ _ _ same; cases same)]
  cases x.plan.isAsync <;> rfl

end

end DaoMapper.Execution
