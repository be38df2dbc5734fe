import DaoMapper.Proofs.Ledger

-- How a mapper comes into being: `__init__` gives it the context, and then every
-- method its field.
namespace DaoMapper.Interface

structure Hierarchy.Instantiable (h : Hierarchy) (c : ClassId) : Prop where
  concrete : h.abstractOf c = []
  recovers : ∀ n, ∃ k, n ≤ k ∧ h.failure c k = none

end DaoMapper.Interface

namespace DaoMapper.Execution

open Code
open Interface (ClassId Hierarchy Slot)
open Mapper

variable {i : Instance} {cls : String} {done xs : List Stand} {x : Stand} {heap next : Heap}

def Stand.start (x : Stand) (cls : String) : Expr := renamed (inClass cls) (x.plan.field x.field).start

def Stand.assignment (x : Stand) (cls : String) : Statement := .assign (.self (inClass cls x.field)) (x.start cls)

theorem start_keyed (keyed : x.plan.keyed = true) : x.start cls = .call (.name "DaoCache") [] := by
  simp [Stand.start, x.plan.keyed_field x.field keyed, Field.start, renamed, renamedAll, inClass_plain cls "DaoCache" rfl rfl]

theorem start_simple (ready : Stand.Ready x m cls settings) (simple : x.plan.keyed = false) :
    x.start cls = if x.plan.isAsync then
        .call (.name "AsyncLazyReference") [.closure [] (x.construction (.name "context"))]
      else x.construction (.name "context") := by
  have construction : renamed (inClass cls) (x.construction (.name "context")) = x.construction (.name "context") := by
    simp [Stand.construction, renamed, renamedAll, ready.spelled, inClass_initName, inClass_plain cls "context" rfl rfl]
  have value : (x.plan.field x.field).start = if x.plan.isAsync then
        .call (.name "AsyncLazyReference") [.closure [] (x.construction (.name "context"))]
      else x.construction (.name "context") := by
    rw [x.plan.simple_field x.field simple]
    rfl
  rw [Stand.start, value]
  split
  · simp [renamed, renamedAll, construction, inClass_plain cls "AsyncLazyReference" rfl rfl]
  · exact construction

def inOrder (stands : List Stand) : List Stand := stands.filter (!·.plan.keyed) ++ stands.filter (·.plan.keyed)

theorem inOrder_perm (stands : List Stand) : (inOrder stands).Perm stands := by
  have perm := List.filter_append_perm (fun x : Stand => !x.plan.keyed) stands
  simp only [Bool.not_not] at perm
  exact perm

theorem starts_stands (taken : List String) (stands : List Stand) :
    (⟨taken, stands.map fun x => x.plan.field x.field⟩ : Fields).starts =
      (inOrder stands).map fun x => (x.field, (x.plan.field x.field).start) := by
  unfold Fields.starts inOrder
  rw [List.map_append]
  refine congrArg₂ List.append ?_ ?_
  · induction stands with
    | nil => rfl
    | cons x rest ih =>
      cases keyed : x.plan.keyed with
      | true => simpa [x.plan.keyed_field x.field keyed, keyed] using ih
      | false => simpa [x.plan.simple_field x.field keyed, keyed, Field.start] using ih
  · induction stands with
    | nil => rfl
    | cons x rest ih =>
      cases keyed : x.plan.keyed with
      | true => simpa [x.plan.keyed_field x.field keyed, keyed, Field.start] using ih
      | false => simpa [x.plan.simple_field x.field keyed, keyed] using ih

def Instance.arguments (i : Instance) : Variables := [("self", .mapper i.number), ("context", .context 0)]

theorem execute_assignment {m : Loaded} {bound : Variables} {n : Nat} (receiver : bound.get? "self" = some (.mapper n))
    (name : String) (value : Expr) (rest : List Statement) (heap : Heap) :
    ends (execute m bound (.assign (.self name) value :: rest)) heap = match ends (evaluate m bound value) heap with
      | (.ok o, next) => ends (execute m bound rest)
          { next with mappers := next.mappers.modify n fun fields => fields.assign name o }
      | (.error f, next) => (.error f, next) := by
  rw [Expr.self, execute, ends_bind]
  cases ends (evaluate m bound value) heap with
  | mk result next =>
    cases result with
    | error f => rfl
    | ok o =>
      dsimp only
      rw [evaluate, ends_bind_ok (ends_variable receiver)]
      rfl

def Heap.Starts (heap : Heap) : Object → Prop
  | .dao _ => True
  | .reference _ => True
  | .cache c => c < heap.caches.length
  | _ => False

def Heap.Recovers (heap : Heap) (c : ClassId) : Prop := ∀ n, ∃ k, n ≤ k ∧ heap.failing c k = none

theorem attempted_recovers (recovers : heap.Recovers c) (tried : ClassId) : (heap.attempted tried).Recovers c := by
  intro n
  obtain ⟨k, later, sound⟩ := recovers (n + 1)
  by_cases same : c = tried
  · refine ⟨k - 1, by omega, ?_⟩
    have back : k - 1 + 1 = k := by omega
    simpa [Heap.attempted, same, back] using same ▸ sound
  · refine ⟨k, by omega, ?_⟩
    simpa [Heap.attempted, same] using sound

-- A new cache, or what answers all calls from then on.
structure Instance.Adds (i : Instance) (cls : String) (x : Stand) (o : Object) (heap next : Heap) : Prop where
  there : i.number < heap.mappers.length
  contexts : heap.contexts <+: next.contexts
  daos : heap.daos <+: next.daos
  references : ∃ more, next.references = heap.references ++ more ∧ ∀ r ∈ more, r.ending = none
  caches : ∃ more, next.caches = heap.caches ++ more ∧ ∀ c ∈ more, c = Cache.Store.empty
  mappers : next.mappers = heap.mappers.modify i.number fun fields => fields.assign (inClass cls x.field) o
  starts : next.Starts o
  recovers : ∀ c, heap.Recovers c → next.Recovers c
  cache : x.plan.keyed = true → o = .cache heap.caches.length
  answers : x.plan.keyed = false → ∀ awaits o', next.answer? awaits o = some (.ok o') →
    ¬ heap.Has o' ∧ i.Answer x wholeKey next awaits o'

section

variable (adds : i.Adds cls x o heap next)

include adds

theorem adds_fields : i.fields next = (i.fields heap).assign (inClass cls x.field) o := by
  simp [Instance.fields, adds.mappers, List.getElem?_eq_getElem adds.there]

theorem adds_own : (i.fields next).get? (inClass cls x.field) = some o := by
  rw [adds_fields adds]
  exact Variables.get?_assign_same _ _ _

theorem adds_other (other : name ≠ inClass cls x.field) : (i.fields next).get? name = (i.fields heap).get? name := by
  rw [adds_fields adds]
  exact Variables.get?_assign_other _ _ other

theorem adds_grown : heap.Grown next := by
  refine ⟨adds.contexts, adds.daos, fun r reference known => ⟨reference.ending, ?_⟩⟩
  obtain ⟨more, references, _⟩ := adds.references
  rw [references, List.getElem?_append_left (List.getElem?_eq_some_iff.mp known).1, known]

theorem adds_settled (laid : i.Laid cls done heap) (member : y ∈ done)
    (apart : inClass cls y.field ≠ inClass cls x.field) (key : Cql.CacheKey) (awaits : Bool) :
    i.settled cls next y key awaits = i.settled cls heap y key awaits := by
  obtain ⟨more, references, unended⟩ := adds.references
  have held : i.held cls next y key = i.held cls heap y key := by
    cases kind : y.plan.keyed with
    | false => exact held_same kind (adds_other adds apart) key
    | true =>
      obtain ⟨c, taken, inside⟩ := laid.cache y member kind
      obtain ⟨stores, caches, _⟩ := adds.caches
      rw [held_keyed kind taken, held_keyed kind ((adds_other adds apart).trans taken), caches,
        List.getElem?_append_left inside]
  rw [Instance.settled, held, Instance.settled]
  exact congrArg _ (funext fun o' => answer?_appended unended references awaits o')

theorem adds_seated (seated : i.Seated heap) (context : i.narrows = true → i.contextName ≠ inClass cls x.field) :
    i.Seated next where
  first := prefix_getElem? adds.contexts seated.first
  there := by
    rw [adds.mappers, List.length_modify]
    exact adds.there
  context kind := by
    rw [adds_other adds (context kind)]
    exact seated.context kind

theorem adds_longer : heap.caches.length ≤ next.caches.length := by
  obtain ⟨stores, caches, _⟩ := adds.caches
  rw [caches]
  exact (List.prefix_append _ _).length_le

theorem adds_apart (laid : i.Laid cls done heap) (apart : ∀ y ∈ done, inClass cls y.field ≠ inClass cls x.field)
    (keyed : x.plan.keyed = true) (member : y ∈ done) (kind : y.plan.keyed = true) :
    (i.fields next).get? (inClass cls y.field) ≠ (i.fields next).get? (inClass cls x.field) := by
  intro same
  obtain ⟨c, taken, inside⟩ := laid.cache y member kind
  rw [adds_other adds (apart y member), taken, adds_own adds, adds.cache keyed] at same
  -- A cache that was there has a smaller number than the new one.
  cases same
  exact Nat.lt_irrefl _ inside

theorem adds_laid (laid : i.Laid cls done heap) (unclaimed : (i.fields heap).get? x.plan.name = none)
    (foreign : ∀ y ∈ x :: done, y.plan.name ≠ inClass cls x.field)
    (context : i.narrows = true → i.contextName ≠ inClass cls x.field) (narrows : x.plan.keyed = true → i.narrows = true)
    (apart : ∀ y ∈ done, inClass cls y.field ≠ inClass cls x.field) :
    i.Laid cls (x :: done) next where
  seated := adds_seated adds laid.seated context
  narrows := List.forall_mem_cons.mpr ⟨narrows, laid.narrows⟩
  unclaimed y member := by
    rw [adds_other adds (foreign y member)]
    rcases List.mem_cons.mp member with rfl | old
    · exact unclaimed
    · exact laid.unclaimed y old
  simple y member kind := by
    rcases List.mem_cons.mp member with rfl | old
    · exact ⟨o, adds_own adds⟩
    · rw [adds_other adds (apart y old)]
      exact laid.simple y old kind
  cache y member kind := by
    rcases List.mem_cons.mp member with rfl | old
    · obtain rfl := adds.cache kind
      exact ⟨_, adds_own adds, adds.starts⟩
    · obtain ⟨c, taken, inside⟩ := laid.cache y old kind
      exact ⟨c, (adds_other adds (apart y old)).trans taken, Nat.lt_of_lt_of_le inside (adds_longer adds)⟩
  apart y member z member' kind kind' same := by
    rcases List.mem_cons.mp member with rfl | old
    · rcases List.mem_cons.mp member' with rfl | old'
      · rfl
      · exact absurd same.symm (adds_apart adds laid apart kind old' kind')
    · rcases List.mem_cons.mp member' with rfl | old'
      · exact absurd same (adds_apart adds laid apart kind' old kind)
      · rw [adds_other adds (apart y old), adds_other adds (apart z old')] at same
        exact laid.apart y old z old' kind kind' same

theorem adds_unheld (keyed : x.plan.keyed = true) (key : Cql.CacheKey) : i.held cls next x key = none := by
  obtain ⟨more, caches, empty⟩ := adds.caches
  obtain rfl := adds.cache keyed
  rw [held_keyed keyed (adds_own adds), caches, List.getElem?_append_right (Nat.le_refl _)]
  cases there : more[heap.caches.length - heap.caches.length]? with
  | none => rfl
  | some c =>
    rw [empty c (List.mem_of_getElem? there)]
    rfl

theorem adds_sound (sound : i.Sound cls done heap) (unclaimed : (i.fields heap).get? x.plan.name = none)
    (foreign : ∀ y ∈ x :: done, y.plan.name ≠ inClass cls x.field)
    (context : i.narrows = true → i.contextName ≠ inClass cls x.field) (narrows : x.plan.keyed = true → i.narrows = true)
    (apart : ∀ y ∈ done, inClass cls y.field ≠ inClass cls x.field) : i.Sound cls (x :: done) next := by
  refine ⟨adds_laid adds sound.laid unclaimed foreign context narrows apart,
    ledger_step x wholeKey sound.ledger (adds_grown adds) ?_⟩
  intro y member key awaits o' settled
  rcases List.mem_cons.mp member with rfl | old
  · obtain ⟨o'', held, answered⟩ := Option.bind_eq_some_iff.mp settled
    cases kind : y.plan.keyed with
    | true =>
      rw [adds_unheld adds kind] at held
      cases held
    | false =>
      simp only [Instance.held, kind, adds_own adds] at held
      split at held
      · rename_i whole
        cases held
        subst whole
        exact .inr ⟨⟨rfl, rfl⟩, adds.answers kind awaits o' answered⟩
      · cases held
  · rw [adds_settled adds sound.laid old (apart y old)] at settled
    exact .inl ⟨old, settled⟩

end

theorem start_ends (ready : Stand.Ready x i.module cls settings) (heap : Heap) :
    ends (evaluate i.module i.arguments (x.start cls)) heap =
      if x.plan.keyed then (.ok (.cache heap.caches.length), { heap with caches := heap.caches ++ [Cache.Store.empty] })
      else if x.plan.isAsync then (.ok (.reference heap.references.length), { heap with
        references := heap.references ++ [⟨.closure [] (x.construction (.name "context")) i.arguments, [], none⟩] })
      else ends (construct i.module.hierarchy x.type 0) heap := by
  cases keyed : x.plan.keyed with
  | true =>
    rw [start_keyed keyed, evaluate, ends_call (ends_global rfl (ready.cache keyed)) rfl (by intro _ _ _ same; cases same)]
    rfl
  | false =>
    rw [start_simple ready keyed]
    cases async : x.plan.isAsync with
    | true =>
      rw [if_pos rfl, evaluate, ends_call (ends_global rfl (ready.reference keyed async)) (ends_one rfl)
        (by intro _ _ _ same; cases same)]
      rfl
    | false =>
      have unbound := ready.unshadowed.unbound
      simp only [keyed] at unbound
      have free : i.arguments.get? x.plan.builder = none := by
        rw [Variables.get?_none]
        simpa [Instance.arguments] using unbound
      rw [if_neg Bool.false_ne_true, evaluate, Stand.construction,
        ends_construction free ready.known ready.found ready.builds (ends_variable rfl), async]
      rfl

section

variable (there : i.number < heap.mappers.length)

include there

theorem cache_adds (keyed : x.plan.keyed = true) : i.Adds cls x (.cache heap.caches.length) heap { heap with
    caches := heap.caches ++ [Cache.Store.empty]
    mappers := heap.mappers.modify i.number fun fields =>
      fields.assign (inClass cls x.field) (.cache heap.caches.length) } where
  there := there
  contexts := List.prefix_refl _
  daos := List.prefix_refl _
  references := ⟨[], (List.append_nil _).symm, List.forall_mem_nil _⟩
  caches := ⟨_, rfl, fun _ member => List.mem_singleton.mp member⟩
  mappers := rfl
  starts := by simp [Heap.Starts]
  recovers _ recovers := recovers
  cache _ := rfl
  answers simple := by
    rw [keyed] at simple
    cases simple

theorem reference_adds (simple : x.plan.keyed = false) (async : x.plan.isAsync = true)
    (yields : i.Yields x.type wholeKey true (invoke i.module factory arguments)) :
    i.Adds cls x (.reference heap.references.length) heap { heap with
      references := heap.references ++ [⟨factory, arguments, none⟩]
      mappers := heap.mappers.modify i.number fun fields =>
        fields.assign (inClass cls x.field) (.reference heap.references.length) } where
  there := there
  contexts := List.prefix_refl _
  daos := List.prefix_refl _
  references := by
    refine ⟨_, rfl, ?_⟩
    intro reference member
    rw [List.mem_singleton.mp member]
  caches := ⟨[], (List.append_nil _).symm, List.forall_mem_nil _⟩
  mappers := rfl
  starts := trivial
  recovers _ recovers := recovers
  cache keyed := by
    rw [simple] at keyed
    cases keyed
  answers _ awaits o' answered := by
    cases awaits with
    | true => simp [Heap.answer?] at answered
    | false =>
      cases answered
      exact ⟨Nat.lt_irrefl _, .reference async List.getElem?_concat_length yields⟩

theorem dao_adds (simple : x.plan.keyed = false) (sync : x.plan.isAsync = false)
    (first : heap.contexts[0]? = some i.outer) : i.Adds cls x (.dao heap.daos.length) heap { heap with
      daos := heap.daos ++ [⟨x.type, 0⟩]
      failing := (heap.attempted x.type).failing
      mappers := heap.mappers.modify i.number fun fields =>
        fields.assign (inClass cls x.field) (.dao heap.daos.length) } where
  there := there
  contexts := List.prefix_refl _
  daos := List.prefix_append _ _
  references := ⟨[], (List.append_nil _).symm, List.forall_mem_nil _⟩
  caches := ⟨[], (List.append_nil _).symm, List.forall_mem_nil _⟩
  mappers := rfl
  starts := trivial
  recovers _ recovers := attempted_recovers recovers x.type
  cache keyed := by
    rw [simple] at keyed
    cases keyed
  answers _ awaits o' answered := by
    cases answered
    refine ⟨Nat.lt_irrefl _, .dao ?_ List.getElem?_concat_length ⟨first, fun _ => rfl⟩⟩
    intro async
    rw [sync] at async
    cases async

theorem start_adds (ready : Stand.Ready x i.module cls settings) (first : heap.contexts[0]? = some i.outer)
    (evaluated : ends (evaluate i.module i.arguments (x.start cls)) heap = (.ok o, next)) :
    i.Adds cls x o heap { next with
      mappers := next.mappers.modify i.number fun fields => fields.assign (inClass cls x.field) o } := by
  rw [start_ends ready] at evaluated
  cases keyed : x.plan.keyed with
  | true =>
    rw [keyed, if_pos rfl] at evaluated
    cases evaluated
    exact cache_adds there keyed
  | false =>
    rw [keyed, if_neg Bool.false_ne_true] at evaluated
    cases async : x.plan.isAsync with
    | true =>
      have yields := simple_yields ready keyed
      rw [async] at yields
      rw [async, if_pos rfl] at evaluated
      cases evaluated
      exact reference_adds there keyed async yields
    | false =>
      rw [async, if_neg Bool.false_ne_true] at evaluated
      cases fails : heap.failing? i.module.hierarchy x.type with
      | some f =>
        rw [ends_construct_error fails 0] at evaluated
        cases evaluated
      | none =>
        rw [ends_construct_ok fails] at evaluated
        cases evaluated
        exact dao_adds there keyed async first

end

-- The fields are given one after the other: what holds at first and is kept by each
-- step holds at the end. `done` are the methods that have theirs, the latest first.
theorem starts_run {P : List Stand → Heap → Prop} {stands : List Stand}
    (ready : ∀ x ∈ stands, Stand.Ready x i.module cls settings)
    (seated : ∀ done heap, P done heap → heap.contexts[0]? = some i.outer ∧ i.number < heap.mappers.length)
    (step : ∀ x done rest heap next o, done.reverse ++ x :: rest = stands → P done heap →
      i.Adds cls x o heap next → P (x :: done) next)
    (begun : P [] heap)
    (executed : ends (execute i.module i.arguments (stands.map (·.assignment cls))) heap = (.ok o, last)) :
    P stands.reverse last := by
  suffices left : ∀ rest done heap, done.reverse ++ rest = stands → P done heap →
      ends (execute i.module i.arguments (rest.map (·.assignment cls))) heap = (.ok o, last) →
        P stands.reverse last from left stands [] heap rfl begun executed
  intro rest
  induction rest with
  | nil =>
    intro done heap split held executed
    cases executed
    rwa [← split, List.append_nil, List.reverse_reverse]
  | cons x rest ih =>
    intro done heap split held executed
    have there : x ∈ stands := split ▸ List.mem_append_right _ List.mem_cons_self
    have receiver : i.arguments.get? "self" = some (.mapper i.number) := Variables.get?_cons_same _ _
    rw [List.map_cons, Stand.assignment, execute_assignment receiver] at executed
    cases evaluated : ends (evaluate i.module i.arguments (x.start cls)) heap with
    | mk result next =>
      cases result with
      | error f => simp [evaluated] at executed
      | ok o' =>
        simp only [evaluated] at executed
        obtain ⟨first, inside⟩ := seated done heap held
        have adds := start_adds inside (ready x there) first evaluated
        refine ih (x :: done) _ ?_ (step x done rest heap _ o' split held adds) executed
        rw [List.reverse_cons, List.append_assoc]
        exact split

theorem starts_sound {stands : List Stand} (ready : ∀ x ∈ stands, Stand.Ready x i.module cls settings)
    (distinct : (stands.map fun x => inClass cls x.field).Nodup)
    (context : i.narrows = true → ∀ x ∈ stands, i.contextName ≠ inClass cls x.field)
    (foreign : ∀ x ∈ stands, ∀ y ∈ stands, x.plan.name ≠ inClass cls y.field)
    (narrows : ∀ x ∈ stands, x.plan.keyed = true → i.narrows = true) (sound : i.Sound cls [] heap)
    (unclaimed : ∀ x ∈ stands, (i.fields heap).get? x.plan.name = none)
    (executed : ends (execute i.module i.arguments (stands.map (·.assignment cls))) heap = (.ok o, last)) :
    i.Sound cls stands.reverse last := by
  have run := starts_run (P := fun done heap => i.Sound cls done heap ∧
    ∀ x ∈ stands, (i.fields heap).get? x.plan.name = none) ready
    (fun done heap held => ⟨held.1.laid.seated.first, held.1.laid.seated.there⟩) ?_ ⟨sound, unclaimed⟩ executed
  · exact run.1
  · intro x done rest heap next o split held adds
    have inside : ∀ y ∈ x :: done, y ∈ stands := by
      intro y member
      rw [← split]
      rcases List.mem_cons.mp member with rfl | old
      · exact List.mem_append_right _ List.mem_cons_self
      · exact List.mem_append_left _ (List.mem_reverse.mpr old)
    have there := inside x List.mem_cons_self
    rw [← split, List.map_append, List.nodup_append] at distinct
    have apart : ∀ y ∈ done, inClass cls y.field ≠ inClass cls x.field := fun y member =>
      distinct.2.2 _ (List.mem_map_of_mem (List.mem_reverse.mpr member)) _ (List.mem_map_of_mem List.mem_cons_self)
    refine ⟨adds_sound adds held.1 (held.2 x there) (fun y member => foreign y (inside y member) x there)
      (fun kind => context kind x there) (narrows x there) apart, fun y member => ?_⟩
    rw [adds_other adds (foreign y member x there)]
    exact held.2 y member

theorem sound_subset (sound : i.Sound cls xs heap) (inside : ∀ y ∈ done, y ∈ xs) : i.Sound cls done heap where
  laid.seated := sound.laid.seated
  laid.narrows y member := sound.laid.narrows y (inside y member)
  laid.unclaimed y member := sound.laid.unclaimed y (inside y member)
  laid.simple y member := sound.laid.simple y (inside y member)
  laid.cache y member := sound.laid.cache y (inside y member)
  laid.apart y member z member' := sound.laid.apart y (inside y member) z (inside z member')
  ledger.right y member := sound.ledger.right y (inside y member)
  ledger.apart y member z member' := sound.ledger.apart y (inside y member) z (inside z member')

theorem seated_sound (seated : i.Seated heap) : i.Sound cls [] heap where
  laid.seated := seated
  laid.narrows := List.forall_mem_nil _
  laid.unclaimed := List.forall_mem_nil _
  laid.simple := List.forall_mem_nil _
  laid.cache := List.forall_mem_nil _
  laid.apart := List.forall_mem_nil _
  ledger.right := List.forall_mem_nil _
  ledger.apart := List.forall_mem_nil _

theorem init_function (cls : String) (settings : Settings.Generator) (taken : List String) (stands : List Stand) :
    (renamedFunction (inClass cls) (initFunction settings
        ⟨taken, stands.map fun x => x.plan.field x.field⟩)).body =
      .assign (.self (inClass cls settings.contextAttribute)) (.name "context") ::
        (inOrder stands).map (·.assignment cls) := by
  rw [renamedFunction, initFunction_body, starts_stands, List.map_cons, List.map_map, List.map_map]
  refine congrArg₂ List.cons ?_ (List.map_congr_left fun x _ => ?_)
  · simp [renamedStatement, renamed, Expr.self, inClass_plain cls "self" rfl rfl, inClass_plain cls "context" rfl rfl]
  · simp [renamedStatement, renamed, Expr.self, inClass_plain cls "self" rfl rfl, Stand.assignment, Stand.start]

theorem init_slots (cls : String) (settings : Settings.Generator) (fs : Fields) :
    Function.slots (renamedFunction (inClass cls) (initFunction settings fs)) =
      [⟨"self", .positional, none⟩, ⟨"context", .positional, none⟩] := by
  simp [Function.slots, renamedFunction, initFunction, inClass_plain cls "self" rfl rfl, inClass_plain cls "context" rfl rfl]

theorem newMapper_made {m : Loaded} (init : m.function? "__init__" = some f)
    (made : ends (newMapper m) heap = (.ok n, last)) :
    n = heap.mappers.length ∧ ∃ o,
      ends (callFunction m f [.mapper n, .context 0] []) { heap with mappers := heap.mappers ++ [[]] } = (.ok o, last) := by
  unfold newMapper at made
  split at made
  · simp at made
  · obtain ⟨_, _, counted, made⟩ := ends_bind_inv made
    cases counted
    obtain ⟨_, _, pushed, made⟩ := ends_bind_inv made
    cases pushed
    obtain ⟨o, _, called, returned⟩ := ends_bind_inv made
    cases returned
    refine ⟨rfl, o, ?_⟩
    have found : mapperMember? m [] heap.mappers.length "__init__" =
        some (.bound (.mapper heap.mappers.length) "__init__") := by
      simp [mapperMember?, init]
    unfold callMethod at called
    rw [ends_bind_ok (ends_mapperMember (by simpa using found))] at called
    simpa [init] using called

theorem begun_seated (number : i.number = 0) (first : heap.contexts[0]? = some i.outer)
    (begun : next = { heap with mappers := [[(i.contextName, .context 0)]] }) :
    i.Seated next ∧ ∀ name, name ≠ i.contextName → (i.fields next).get? name = none := by
  have own : i.fields next = [(i.contextName, .context 0)] := by
    rw [Instance.fields, begun, number]
    rfl
  refine ⟨⟨?_, ?_, fun _ => ?_⟩, ?_⟩
  · rw [begun]
    exact first
  · rw [begun, number]
    exact Nat.one_pos
  · rw [own]
    exact Variables.get?_cons_same _ _
  · intro name other
    rw [own]
    exact Variables.get?_cons_other _ other

theorem init_runs {stands : List Stand} {fs : Fields} (all : fs.all = stands.map fun x => x.plan.field x.field)
    (init : i.module.function? "__init__" = some (renamedFunction (inClass cls) (initFunction settings fs)))
    (number : i.number = 0) (context : i.contextName = inClass cls settings.contextAttribute)
    (fresh : heap.mappers = []) (made : ends (newMapper i.module) heap = (.ok n, last)) :
    n = 0 ∧ ∃ o, ends (execute i.module i.arguments ((inOrder stands).map (·.assignment cls)))
      { heap with mappers := [[(i.contextName, .context 0)]] } = (.ok o, last) := by
  obtain ⟨taken, fields⟩ := fs
  obtain rfl : fields = _ := all
  obtain ⟨rfl, o, called⟩ := newMapper_made init made
  rw [fresh] at called ⊢
  refine ⟨rfl, o, ?_⟩
  have bound : Slot.bind? [⟨"self", .positional, none⟩, ⟨"context", .positional, none⟩]
      [Object.mapper ([] : List Variables).length, .context 0] [] = some i.arguments := by
    rw [Instance.arguments, number]
    rfl
  rw [callFunction, init_slots, bound] at called
  dsimp only at called
  have receiver : i.arguments.get? "self" = some (.mapper i.number) := Variables.get?_cons_same _ _
  rw [init_function, execute_assignment receiver, evaluate, ends_variable rfl] at called
  have assigned : ([] ++ [[]] : List Variables).modify i.number (fun fields =>
      fields.assign (inClass cls settings.contextAttribute) (.context 0)) = [[(i.contextName, .context 0)]] := by
    rw [number, context]
    rfl
  dsimp only at called
  rwa [assigned] at called

theorem init_sound {stands : List Stand} (ready : ∀ x ∈ stands, Stand.Ready x i.module cls settings)
    (distinct : (stands.map fun x => inClass cls x.field).Nodup)
    (context : i.narrows = true → ∀ x ∈ stands, i.contextName ≠ inClass cls x.field)
    (foreign : ∀ x ∈ stands, x.plan.name ≠ i.contextName ∧ ∀ y ∈ stands, x.plan.name ≠ inClass cls y.field)
    (narrows : ∀ x ∈ stands, x.plan.keyed = true → i.narrows = true)
    (number : i.number = 0) (first : heap.contexts[0]? = some i.outer)
    (executed : ends (execute i.module i.arguments ((inOrder stands).map (·.assignment cls)))
      { heap with mappers := [[(i.contextName, .context 0)]] } = (.ok o, last)) : i.Sound cls stands last := by
  have perm := inOrder_perm stands
  have among : ∀ x ∈ inOrder stands, x ∈ stands := fun x member => perm.mem_iff.mp member
  obtain ⟨seated, absent⟩ := begun_seated number first rfl
  have sound := starts_sound (fun x member => ready x (among x member)) ((perm.map _).nodup_iff.mpr distinct)
    (fun kind x member => context kind x (among x member))
    (fun x member y member' => (foreign x (among x member)).2 y (among y member'))
    (fun x member => narrows x (among x member)) (seated_sound seated)
    (fun x member => absent _ (foreign x (among x member)).1) executed
  exact sound_subset sound fun x member => List.mem_reverse.mpr (perm.mem_iff.mpr member)

end DaoMapper.Execution
