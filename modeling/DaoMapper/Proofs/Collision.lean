import DaoMapper.Proofs.Making
import DaoMapper.Proofs.Meaning

-- What a mapper does where its attributes are not kept apart: some call is not answered
-- as its method says, or two methods give one object.
namespace DaoMapper.Interface.Slot

variable {α : Type} {slots : List (Slot α)}

theorem bind_same (positional : Positional slots) (o : α) :
    bind? slots (slots.map fun _ => o) [] = some (slots.map fun s => (s.name, o)) := by
  obtain ⟨positions, singles, _⟩ := positional_filters positional
  have byName : byPosition slots (slots.map fun _ => o) = slots.map fun s => (s.name, o) := by
    rw [byPosition, positions, List.zip_map']
  have values : ∀ s ∈ slots, s.valueOf? (slots.map fun s => (s.name, o)) [] = some o := by
    intro s member
    cases found : (slots.map fun s => (s.name, o)).find? (·.1 == s.name) with
    | none =>
      have absent := List.find?_eq_none.mp found _ (List.mem_map_of_mem member)
      simp at absent
    | some entry =>
      obtain ⟨s', _, rfl⟩ := List.mem_map.mp (List.mem_of_find?_eq_some found)
      simp [valueOf?, found]
  have given : slots.mapM (fun s => (s.valueOf? (slots.map fun s => (s.name, o)) []).map (s.name, ·)) =
      some (slots.map fun s => (s.name, o)) :=
    (mapM_congr fun s member => congrArg _ (values s member)).trans List.mapM_pure
  unfold bind?
  simp only [byName, singles, given]
  simp [positionsFit, positions]

end DaoMapper.Interface.Slot

namespace DaoMapper.Mapper

open Execution
open Interface (Slot)

def Plan.bare (p : Plan) (awaits : Bool) : Call := ⟨p.name, p.parameters.map fun _ => nullObject, [], awaits⟩

theorem bare_key (p : Plan) (awaits : Bool) (cls : String) : (p.bare awaits).key p cls = .ok wholeKey := by
  have count : (p.parameters.map fun _ => nullObject) = (p.slots cls).map fun _ => nullObject := by
    have names := slots_names p cls
    have sizes := congrArg List.length names
    simp only [List.length_map] at sizes
    rw [List.map_const', List.map_const', sizes]
  have given : Slot.bind? (p.slots cls) (p.parameters.map fun _ => nullObject) [] =
      some ((p.slots cls).map fun s => (s.name, nullObject)) := by
    rw [count]
    exact Slot.bind_same (slots_positional p cls) nullObject
  have argument : ∀ role, p.argument cls ((p.slots cls).map fun s => (s.name, nullObject)) role = nullObject := by
    intro role
    unfold Plan.argument
    cases p.method.signature.parameters.find? (·.role == some role) with
    | none => rfl
    | some q =>
      rw [Option.bind_some]
      cases value : Variables.get? ((p.slots cls).map fun s => (s.name, nullObject)) (inClass cls q.name) with
      | none => rfl
      | some o =>
        obtain ⟨entry, found, rfl⟩ := Option.map_eq_some_iff.mp value
        obtain ⟨_, _, rfl⟩ := List.mem_map.mp (List.mem_of_find?_eq_some found)
        rfl
  rw [Call.key, Plan.bare, Plan.key, given]
  simp only [Plan.keyOf, argument]
  rfl

end DaoMapper.Mapper

namespace DaoMapper.Execution

open Code
open Interface (ClassId Hierarchy Slot)
open Mapper

variable {i : Instance} {cls : String} {done xs : List Stand} {x : Stand} {heap next : Heap}

-- Every attribute has what was assigned to it last, and nothing was asked of it.
structure Instance.Begun (i : Instance) (cls : String) (xs : List Stand) (heap : Heap) : Prop where
  first : heap.contexts[0]? = some i.outer
  there : i.number < heap.mappers.length
  unended : ∀ r ∈ heap.references, r.ending = none
  empty : ∀ c ∈ heap.caches, c = Cache.Store.empty
  starts : ∀ x ∈ xs, ∃ o, (i.fields heap).get? (inClass cls x.field) = some o ∧ heap.Starts o
  context : (∀ x ∈ xs, i.contextName ≠ inClass cls x.field) → (i.fields heap).get? i.contextName = some (.context 0)
  absent : ∀ name, name ≠ i.contextName → (∀ x ∈ xs, name ≠ inClass cls x.field) → (i.fields heap).get? name = none
  recovers : ∀ c, i.module.hierarchy.Instantiable c → heap.Recovers c

theorem adds_begun (adds : i.Adds cls x o heap next) (begun : i.Begun cls done heap) :
    i.Begun cls (x :: done) next where
  first := prefix_getElem? adds.contexts begun.first
  there := by
    rw [adds.mappers, List.length_modify]
    exact begun.there
  unended := by
    obtain ⟨references, same, unended⟩ := adds.references
    rw [same]
    exact List.forall_mem_append.mpr ⟨begun.unended, unended⟩
  empty := by
    obtain ⟨caches, same, empty⟩ := adds.caches
    rw [same]
    exact List.forall_mem_append.mpr ⟨begun.empty, empty⟩
  starts y member := by
    by_cases same : inClass cls y.field = inClass cls x.field
    · rw [same]
      exact ⟨o, adds_own adds, adds.starts⟩
    · rcases List.mem_cons.mp member with rfl | old
      · exact absurd rfl same
      · obtain ⟨o', taken, starts⟩ := begun.starts y old
        refine ⟨o', (adds_other adds same).trans taken, ?_⟩
        cases o' with
        | cache c => exact Nat.lt_of_lt_of_le starts (adds_longer adds)
        | _ => exact starts
  context apart := by
    rw [adds_other adds (apart x List.mem_cons_self)]
    exact begun.context fun y member => apart y (List.mem_cons_of_mem _ member)
  absent name other apart := by
    rw [adds_other adds (apart x List.mem_cons_self)]
    exact begun.absent name other fun y member => apart y (List.mem_cons_of_mem _ member)
  recovers c possible := adds.recovers c (begun.recovers c possible)

theorem init_begun {stands : List Stand} (ready : ∀ x ∈ stands, Stand.Ready x i.module cls settings)
    (number : i.number = 0) (first : heap.contexts[0]? = some i.outer) (references : heap.references = [])
    (caches : heap.caches = []) (recovers : ∀ c, i.module.hierarchy.Instantiable c → heap.Recovers c)
    (executed : ends (execute i.module i.arguments ((inOrder stands).map (·.assignment cls)))
      { heap with mappers := [[(i.contextName, .context 0)]] } = (.ok o, last)) : i.Begun cls stands last := by
  have among : ∀ x, x ∈ inOrder stands ↔ x ∈ stands := fun x => (inOrder_perm stands).mem_iff
  obtain ⟨seated, absent⟩ := begun_seated number first rfl
  have begun : i.Begun cls [] { heap with mappers := [[(i.contextName, .context 0)]] } := {
    first := first
    there := seated.there
    unended := references ▸ List.forall_mem_nil _
    empty := caches ▸ List.forall_mem_nil _
    starts := List.forall_mem_nil _
    context := fun _ => by
      rw [Instance.fields, number]
      exact Variables.get?_cons_same _ _
    absent := fun name other _ => absent name other
    recovers := recovers }
  have begun' := starts_run (fun x member => ready x ((among x).mp member)) (fun _ _ begun => ⟨begun.first, begun.there⟩)
    (fun _ _ _ _ _ _ _ begun adds => adds_begun adds begun) begun executed
  have same : ∀ x, x ∈ stands ↔ x ∈ (inOrder stands).reverse := fun x => by rw [List.mem_reverse, among]
  exact { begun' with
    starts := fun x member => begun'.starts x ((same x).mp member)
    context := fun apart => begun'.context fun x member => apart x ((same x).mpr member)
    absent := fun name other apart => begun'.absent name other fun x member => apart x ((same x).mpr member) }

theorem call_hidden {i : Instance} (there : i.number < heap.mappers.length)
    (hidden : (i.fields heap).get? name = some o) (plain : ∀ receiver method, o ≠ .bound receiver method)
    (arguments : List Object) (keywords : Variables) :
    ends (callMethod i.module i.number name arguments keywords) heap = (.error .unfit, heap) := by
  unfold callMethod
  rw [ends_bind_ok (ends_ownField (fields_there there) hidden)]
  cases o with
  | bound receiver method => exact absurd rfl (plain receiver method)
  | _ => rfl

theorem call_unasked (ready : Stand.Ready x i.module cls settings) (there : i.number < heap.mappers.length)
    (unclaimed : (i.fields heap).get? x.plan.name = none) (keyed : x.plan.keyed = true)
    (context : i.contextName = inClass cls settings.contextAttribute)
    (accepted : x.plan.key cls arguments keywords = .ok key)
    (held : (i.fields heap).get? (inClass cls x.field) = some o) (starts : heap.Starts o)
    (other : ∀ c, o ≠ .cache c) :
    ends (callMethod i.module i.number x.plan.name arguments keywords) heap = (.error .noMember, heap) := by
  obtain ⟨given, _, called, asked⟩ := call_asks ready there unclaimed keyed context accepted held
  have missing : ends (member i.module o (computeName x.plan.isAsync)) heap = (.error .noMember, heap) := by
    cases o with
    | cache c => exact absurd rfl (other c)
    | dao _ => rfl
    | reference _ => rfl
    | _ => exact starts.elim
  rw [called, evaluate, eval, ends_bind_error (asked.trans missing)]

theorem starts_unnarrowed {m : Loaded} (starts : heap.Starts o) (next : Heap) :
    ends (member m o "with_keyspace_and_table") next = (.error .noMember, next) := by
  cases o with
  | cache c => rfl
  | dao _ => rfl
  | reference _ => rfl
  | _ => exact starts.elim

theorem factory_unfit (ready : Stand.Ready x i.module cls settings) (there : i.number < heap.mappers.length)
    (keyed : x.plan.keyed = true) (named : given.map (·.1) = x.plan.parameters.map (inClass cls))
    (held : (i.fields heap).get? i.contextName = some o)
    (missing : ends (member i.module o "with_keyspace_and_table") heap = (.error .noMember, heap)) (key : Cql.CacheKey) :
    ends (invoke i.module (x.factory i given key) [.key key]) heap = (.error .noMember, heap) := by
  have unbound := ready.unshadowed.unbound
  simp only [keyed, if_true] at unbound
  have free : Variables.get? (("k", Object.key key) :: x.scope i given key) x.plan.builder = none := by
    rw [Variables.get?_none]
    simpa [Stand.scope, named] using unbound
  have receiver : Variables.get? (("k", Object.key key) :: x.scope i given key) "self" = some (.mapper i.number) :=
    (Variables.get?_cons_other _ (by decide)).trans (self_scope x i given key)
  have own : ends (eval i.module (invokeAt i.module 2) (("k", .key key) :: x.scope i given key)
      (.self i.contextName)) heap = (.ok o, heap) := by
    rw [Expr.self, ends_field (ends_variable receiver)]
    exact ends_ownField (fields_there there) held
  have argument : ends (eval i.module (invokeAt i.module 2) (("k", .key key) :: x.scope i given key)
      (narrowedContext i.contextName)) heap = (.error .noMember, heap) := by
    rw [narrowedContext, eval]
    exact ends_bind_error ((ends_field own).trans missing) _
  have run : ends (invoke i.module (x.factory i given key) [.key key]) heap =
      ends (eval i.module (invokeAt i.module 2) (("k", .key key) :: x.scope i given key)
        (x.construction (narrowedContext i.contextName))) heap := rfl
  rw [run, Stand.construction, eval, ends_bind_ok (ends_initName free ready.known ready.found ready.builds)]
  refine ends_bind_error ?_ _
  rw [evalAll]
  exact ends_bind_error argument _

theorem unfilled {c : Nat} (empty : heap.caches[c]? = some Cache.Store.empty) (key : Cql.CacheKey) :
    heap.caches[c]?.bind (·.get? key) = none := by
  rw [empty]
  rfl

theorem ends_awaitReference_refused {m : Loaded} {r : Nat} {reference : LazyReference}
    (known : heap.references[r]? = some reference) (unended : reference.ending = none)
    (refused : ends (invoke m reference.factory reference.arguments) heap = (.error f, next)) :
    ends (awaitReference m r) heap = (.error f, next) := by
  unfold awaitReference
  simp [ends_bind, known, unended, refused]

theorem call_stored (ready : Stand.Ready x i.module cls settings) (there : i.number < heap.mappers.length)
    (unclaimed : (i.fields heap).get? x.plan.name = none) (keyed : x.plan.keyed = true)
    (context : i.contextName = inClass cls settings.contextAttribute)
    (field : (i.fields heap).get? (inClass cls x.field) = some (.cache c))
    (stored : heap.caches[c]?.bind (·.get? wholeKey) = some o) :
    ends ((x.plan.bare false).run i.module i.number) heap = (.ok o, heap) := by
  obtain ⟨given, _, called⟩ := call_keyed ready there unclaimed keyed context (bare_key x.plan false cls) field
  exact called.trans (computeIfAbsent_hit stored _)

theorem failing_cause (concrete : h.abstractOf c = []) (fails : heap.failing? h c = some f) :
    ∃ message, f = .constructionFails message := by
  unfold Heap.failing? at fails
  split at fails
  · exact ⟨_, (Option.some.inj fails).symm⟩
  · simp [concrete] at fails

theorem answered_error {t : Step} (answered : t.Answered h outer p c key) (failed : t.result = .error f)
    (concrete : h.abstractOf c = []) (unended : ∀ r ∈ t.before.references, r.ending = none) :
    ∃ message, f = .constructionFails message := by
  cases answered with
  | dao given _ _ _ _ =>
    rw [failed] at given
    cases given
  | reference given _ _ =>
    rw [failed] at given
    cases given
  | raised given _ _ raised =>
    rw [failed] at given
    cases given
    exact failing_cause concrete raised.failing
  | failed given _ _ _ cause =>
    rw [failed] at given
    cases given
    rcases cause with ended | fails
    · obtain ⟨r, known, ended⟩ := Option.bind_eq_some_iff.mp ended
      rw [unended r (List.mem_of_getElem? known)] at ended
      cases ended
    · exact failing_cause concrete fails

section

variable {d : Declaration} {s : Session} {y : Stand} (plans : xs.map (·.plan) = d.plans)
  (ready : ∀ x ∈ xs, Stand.Ready x i.module cls settings) (module : s.module = i.module)
  (serves : s.Serves i.number d i.module.hierarchy cls i.outer)

include plans in
theorem plan_there (there : x ∈ xs) : x.plan ∈ d.plans := by
  rw [← plans]
  exact List.mem_map_of_mem there

include plans module serves

theorem serves_next (there : x ∈ xs) (ran : ends ((x.plan.bare awaits).run i.module i.number) s.heap = (result, next)) :
    Session.Serves { s with heap := next } i.number d i.module.hierarchy cls i.outer := by
  intro calls asked
  have meant := serves (x.plan.bare awaits :: calls)
    (List.forall_mem_cons.mpr ⟨⟨x.plan, plan_there plans there, rfl⟩, asked⟩)
  simp only [Session.history, perform_run, module, ran] at meant
  rw [module]
  exact meant.tail

include ready

theorem bare_answered (there : x ∈ xs)
    (ran : ends ((x.plan.bare awaits).run i.module i.number) s.heap = (result, next)) :
    Step.Answered ⟨x.plan.bare awaits, s.heap, result, next⟩ i.module.hierarchy i.outer x.plan x.type wholeKey := by
  have meant := serves [x.plan.bare awaits] (List.forall_mem_singleton.mpr ⟨x.plan, plan_there plans there, rfl⟩)
  simp only [Session.history, perform_run, module, ran] at meant
  exact meant.answered _ List.mem_cons_self x.plan (plan_there plans there) rfl x.type (ready x there).found wholeKey
    (bare_key x.plan awaits cls)

theorem bare_uncached (there : x ∈ xs)
    (ran : ends ((x.plan.bare awaits).run i.module i.number) s.heap = (.ok o, next)) (c : Nat) : o ≠ .cache c := by
  rintro rfl
  cases bare_answered plans ready module serves there ran with
  | dao given _ _ _ _ => cases given
  | reference given _ _ => cases given
  | raised given _ _ _ => cases given
  | failed given _ _ _ _ => cases given

omit ready in
theorem bare_apart (there : x ∈ xs) (there' : y ∈ xs)
    (ran : ends ((x.plan.bare false).run i.module i.number) s.heap = (.ok o, next))
    (ran' : ends ((y.plan.bare false).run i.module i.number) next = (.ok o, last)) : x.plan = y.plan := by
  have meant := serves [x.plan.bare false, y.plan.bare false] (List.forall_mem_cons.mpr
    ⟨⟨x.plan, plan_there plans there, rfl⟩, List.forall_mem_singleton.mpr ⟨y.plan, plan_there plans there', rfl⟩⟩)
  simp only [Session.history, perform_run, module, ran, ran'] at meant
  obtain ⟨both, _⟩ := List.pairwise_cons.mp meant.same
  have same := both _ List.mem_cons_self x.plan (plan_there plans there) rfl y.plan (plan_there plans there') rfl
    wholeKey wholeKey (bare_key x.plan false cls) (bare_key y.plan false cls) o o rfl rfl
  exact (same.mp rfl).1

section

variable (context : i.contextName = inClass cls settings.contextAttribute) (there : x ∈ xs) (there' : y ∈ xs)
  (keyed : x.plan.keyed = true) (keyed' : y.plan.keyed = true)
  (unclaimed : ∀ x ∈ xs, (i.fields s.heap).get? x.plan.name = none)
  (field : (i.fields s.heap).get? (inClass cls x.field) = some (.cache c))
  (field' : (i.fields s.heap).get? (inClass cls y.field) = some (.cache c))
  (empty : s.heap.caches[c]? = some Cache.Store.empty)

include context there there' keyed' unclaimed field' empty

theorem stored_shared (inside : i.number < s.heap.mappers.length)
    (ran : ends ((x.plan.bare false).run i.module i.number) s.heap = (.ok o, next))
    (mappers : next.mappers = s.heap.mappers) (caches : next.caches = s.heap.caches.modify c (·.put wholeKey o)) :
    x.plan = y.plan := by
  have fields : i.fields next = i.fields s.heap := fields_same mappers
  have stored : next.caches[c]?.bind (·.get? wholeKey) = some o := by
    rw [caches, List.getElem?_modify_eq, empty]
    exact Cache.Store.get?_put_same _ _ _
  exact bare_apart plans module serves there there' ran (call_stored (ready y there') (mappers ▸ inside)
    (fields ▸ unclaimed y there') keyed' context (fields ▸ field') stored)

include keyed field

theorem references_shared (inside : i.number < s.heap.mappers.length) (async : x.plan.isAsync = true) :
    x.plan = y.plan := by
  have absent := unfilled empty wholeKey
  obtain ⟨given, _, called⟩ :=
    call_keyed (ready x there) inside (unclaimed x there) keyed context (bare_key x.plan false cls) field
  rw [async, if_pos rfl, computeIfAbsent_made absent (ends_newReference _ _ _)] at called
  exact stored_shared plans ready module serves context there there' keyed' unclaimed field' empty inside called rfl rfl

theorem daos_shared (sync : x.plan.isAsync = false) (narrows : i.narrows = true) (seated : i.Seated s.heap)
    (concrete : i.module.hierarchy.abstractOf x.type = []) (recovers : s.heap.failing x.type k = none) :
    x.plan = y.plan := by
  induction k generalizing s with
  | zero =>
    have absent := unfilled empty wholeKey
    obtain ⟨given, named, called⟩ :=
      call_keyed (ready x there) seated.there (unclaimed x there) keyed context (bare_key x.plan false cls) field
    obtain ⟨n, more, placed, started⟩ := keyed_yields (ready x there) narrows keyed named wholeKey s.heap seated
    rw [sync, if_neg Bool.false_ne_true] at called started
    have sound : Heap.failing? { s.heap with contexts := s.heap.contexts ++ more } i.module.hierarchy x.type = none := by
      simp [Heap.failing?, recovers, concrete]
    rw [computeIfAbsent_made absent (started.trans (ends_construct_ok sound n))] at called
    exact stored_shared plans ready module serves context there there' keyed' unclaimed field' empty seated.there
      called rfl rfl
  | succ k ih =>
    have absent := unfilled empty wholeKey
    obtain ⟨given, named, called⟩ :=
      call_keyed (ready x there) seated.there (unclaimed x there) keyed context (bare_key x.plan false cls) field
    obtain ⟨n, more, placed, started⟩ := keyed_yields (ready x there) narrows keyed named wholeKey s.heap seated
    rw [sync, if_neg Bool.false_ne_true] at called started
    cases fails : Heap.failing? { s.heap with contexts := s.heap.contexts ++ more } i.module.hierarchy x.type with
    | none =>
      rw [computeIfAbsent_made absent (started.trans (ends_construct_ok fails n))] at called
      exact stored_shared plans ready module serves context there there' keyed' unclaimed field' empty seated.there
        called rfl rfl
    | some f =>
      -- The failed call leaves one attempt fewer until the one that succeeds.
      rw [computeIfAbsent_failed absent (started.trans (ends_construct_error fails n))] at called
      have ran : ends ((x.plan.bare false).run i.module i.number) s.heap = _ := called
      have serves' := serves_next plans module serves there ran
      refine ih (by exact module) serves' unclaimed field field' empty ?_ ?_
      · exact ⟨prefix_getElem? (List.prefix_append _ _) seated.first, seated.there, seated.context⟩
      · simpa [Heap.attempted] using recovers

end

variable (begun : i.Begun cls xs s.heap) (possible : ∀ x ∈ xs, i.module.hierarchy.Instantiable x.type)

include begun possible

theorem bare_error (there : x ∈ xs)
    (ran : ends ((x.plan.bare awaits).run i.module i.number) s.heap = (.error f, next)) :
    ∃ message, f = .constructionFails message :=
  answered_error (bare_answered plans ready module serves there ran) rfl (possible x there).concrete begun.unended

theorem methods_kept : ∀ x ∈ xs, x.plan.name ≠ i.contextName ∧ ∀ y ∈ xs, x.plan.name ≠ inClass cls y.field := by
  intro x there
  -- A field is found before the method, and it is nothing that can be called.
  have seen : ∀ o, (∀ receiver method, o ≠ .bound receiver method) → (i.fields s.heap).get? x.plan.name ≠ some o := by
    intro o plain hidden
    have ran : ends ((x.plan.bare false).run i.module i.number) s.heap = (.error .unfit, s.heap) :=
      call_hidden begun.there hidden plain _ _
    obtain ⟨_, fails⟩ := bare_error plans ready module serves begun possible there ran
    cases fails
  have other : ∀ y ∈ xs, x.plan.name ≠ inClass cls y.field := by
    intro y there' same
    obtain ⟨o, held, starts⟩ := begun.starts y there'
    refine seen o ?_ (same ▸ held)
    rintro receiver method rfl
    exact starts
  refine ⟨fun same => ?_, other⟩
  have context := begun.context fun y there' => same ▸ other y there'
  exact seen (.context 0) (fun _ _ same => nomatch same) (same ▸ context)

theorem methods_unclaimed : ∀ x ∈ xs, (i.fields s.heap).get? x.plan.name = none := by
  intro x there
  obtain ⟨context, other⟩ := methods_kept plans ready module serves begun possible x there
  exact begun.absent _ context other

variable (context : i.contextName = inClass cls settings.contextAttribute)

include context

theorem keyed_cache (there : x ∈ xs) (keyed : x.plan.keyed = true) :
    ∃ c, (i.fields s.heap).get? (inClass cls x.field) = some (.cache c) ∧ s.heap.caches[c]? = some Cache.Store.empty := by
  have unclaimed := methods_unclaimed plans ready module serves begun possible x there
  obtain ⟨o, held, starts⟩ := begun.starts x there
  by_cases other : ∀ c, o ≠ .cache c
  · have ran : ends ((x.plan.bare false).run i.module i.number) s.heap = (.error .noMember, s.heap) :=
      call_unasked (ready x there) begun.there unclaimed keyed context (bare_key x.plan false cls) held starts other
    obtain ⟨_, fails⟩ := bare_error plans ready module serves begun possible there ran
    cases fails
  · obtain ⟨c, rfl⟩ : ∃ c, o = .cache c := by
      by_contra none
      exact other fun c same => none ⟨c, same⟩
    have inside := List.getElem?_eq_getElem starts
    exact ⟨c, held, inside.trans (congrArg some (begun.empty _ (List.getElem_mem starts)))⟩

theorem context_kept (there : x ∈ xs) (keyed : x.plan.keyed = true) : ∀ y ∈ xs, i.contextName ≠ inClass cls y.field := by
  intro y there' same
  have unclaimed := methods_unclaimed plans ready module serves begun possible x there
  obtain ⟨o, held, starts⟩ := begun.starts y there'
  rw [← same] at held
  obtain ⟨c, field, empty⟩ := keyed_cache plans ready module serves begun possible context there keyed
  have absent := unfilled empty wholeKey
  obtain ⟨given, named, called⟩ :=
    call_keyed (ready x there) begun.there unclaimed keyed context (bare_key x.plan false cls) field
  cases async : x.plan.isAsync with
  | false =>
    have unfit := factory_unfit (ready x there) begun.there keyed named held (starts_unnarrowed starts s.heap) wholeKey
    rw [async, if_neg Bool.false_ne_true, computeIfAbsent_failed absent unfit] at called
    have ran : ends ((x.plan.bare false).run i.module i.number) s.heap = (.error .noMember, s.heap) := called
    obtain ⟨_, fails⟩ := bare_error plans ready module serves begun possible there ran
    cases fails
  | true =>
    rw [async, if_pos rfl, computeIfAbsent_made absent (ends_newReference _ _ _)] at called
    have ran : ends ((x.plan.bare true).run i.module i.number) s.heap = _ := ends_bind_ok called (awaited i.module)
    generalize after : Heap.mk .. = middle at ran
    have inside : i.number < middle.mappers.length := after ▸ begun.there
    have held' : (i.fields middle).get? i.contextName = some o := after ▸ held
    have unfit := factory_unfit (ready x there) inside keyed named held' (starts_unnarrowed starts middle) wholeKey
    have known : middle.references[s.heap.references.length]? = some ⟨x.factory i given wholeKey, [.key wholeKey], none⟩ :=
      after ▸ List.getElem?_concat_length
    have unfit := ends_awaitReference_refused known rfl unfit
    obtain ⟨_, fails⟩ := bare_error plans ready module serves begun possible there (ran.trans unfit)
    cases fails

theorem fields_kept (narrows : ∀ x ∈ xs, x.plan.keyed = true → i.narrows = true) (there : x ∈ xs) (there' : y ∈ xs)
    (same : inClass cls x.field = inClass cls y.field) : x.plan = y.plan := by
  have unclaimed := methods_unclaimed plans ready module serves begun possible
  obtain ⟨o, held, starts⟩ := begun.starts x there
  have simple_given : ∀ z ∈ xs, z.plan.keyed = false → inClass cls z.field = inClass cls x.field →
      ends ((z.plan.bare false).run i.module i.number) s.heap = (.ok o, s.heap) := by
    intro z among simple shared
    exact call_simple (ready z among) begun.there (unclaimed z among) simple (bare_key z.plan false cls) (shared ▸ held)
  have keyed_cached : ∀ z ∈ xs, z.plan.keyed = true → inClass cls z.field = inClass cls x.field →
      ∃ c, o = .cache c ∧ s.heap.caches[c]? = some Cache.Store.empty := by
    intro z among keyed shared
    obtain ⟨c, field, empty⟩ := keyed_cache plans ready module serves begun possible context among keyed
    rw [shared, held] at field
    exact ⟨c, Option.some.inj field, empty⟩
  -- One attribute cannot be both what a method without a key returns and a cache.
  have unmixed : ∀ z ∈ xs, ∀ w ∈ xs, z.plan.keyed = false → w.plan.keyed = true →
      inClass cls z.field = inClass cls x.field → inClass cls w.field ≠ inClass cls x.field := by
    intro z among w among' simple keyed shared shared'
    obtain ⟨c, cached, _⟩ := keyed_cached w among' keyed shared'
    exact bare_uncached plans ready module serves among (simple_given z among simple shared) c cached
  cases kind : x.plan.keyed with
  | false =>
    cases kind' : y.plan.keyed with
    | false =>
      exact bare_apart plans module serves there there' (simple_given x there kind rfl)
        (simple_given y there' kind' same.symm)
    | true => exact absurd same.symm (unmixed x there y there' kind kind' rfl)
  | true =>
    obtain ⟨c, rfl, empty⟩ := keyed_cached x there kind rfl
    cases kind' : y.plan.keyed with
    | false => exact absurd rfl (unmixed y there' x there kind' kind same.symm)
    | true =>
      cases async : x.plan.isAsync with
      | true =>
        exact references_shared plans ready module serves context there there' kind kind' unclaimed held (same ▸ held) empty
          begun.there async
      | false =>
        have apart := context_kept plans ready module serves begun possible context there kind
        have seated : i.Seated s.heap := ⟨begun.first, begun.there, fun _ => begun.context apart⟩
        obtain ⟨k, _, recovers⟩ := begun.recovers x.type (possible x there) 0
        exact daos_shared plans ready module serves context there there' kind kind' unclaimed held (same ▸ held) empty
          async (narrows x there kind) seated (possible x there).concrete recovers

end

end DaoMapper.Execution
