import DaoMapper.Proofs.Call
import DaoMapper.Proofs.Store

-- What an instance holds for the keys of its methods: every answer is the DAO of its
-- own key, and a step of a run only adds to what is there.
namespace DaoMapper.Execution

open Interface (ClassId Hierarchy)
open Mapper

theorem computeIfAbsent_hit (held : heap.caches[n]?.bind (·.get? key) = some o) (make : Eval Object) :
    ends (computeIfAbsent n key make) heap = (.ok o, heap) := by
  simp [computeIfAbsent, ends_bind, held]

theorem computeIfAbsent_made (absent : heap.caches[n]?.bind (·.get? key) = none)
    (made : ends make heap = (.ok o, next)) :
    ends (computeIfAbsent n key make) heap =
      (.ok o, { next with caches := next.caches.modify n (·.put key o) }) := by
  simp [computeIfAbsent, ends_bind, ends_map, absent, made]

theorem computeIfAbsent_failed (absent : heap.caches[n]?.bind (·.get? key) = none)
    (failed : ends make heap = (.error f, next)) :
    ends (computeIfAbsent n key make) heap = (.error f, next) := by
  simp [computeIfAbsent, ends_bind, absent, failed]

-- A reference that is awaited answers by its ending, anything else by itself.
def Heap.answer? (heap : Heap) (awaits : Bool) : Object → Option (Except Failure Object)
  | .reference r => if awaits then heap.references[r]?.bind (·.ending) else some (.ok (.reference r))
  | o => some (.ok o)

-- A method without parameters has its field and one key.
def Instance.held (i : Instance) (cls : String) (heap : Heap) (x : Stand) (key : Cql.CacheKey) : Option Object :=
  match x.plan.keyed, (i.fields heap).get? (inClass cls x.field) with
  | true, some (.cache c) => heap.caches[c]?.bind (·.get? key)
  | false, some o => if key = wholeKey then some o else none
  | _, _ => none

def Instance.settled (i : Instance) (cls : String) (heap : Heap) (x : Stand) (key : Cql.CacheKey)
    (awaits : Bool) : Option (Except Failure Object) :=
  (i.held cls heap x key).bind (heap.answer? awaits)

-- A DAO of the class of a method in the context of a key, or the reference to one
-- that will be built so.
inductive Instance.Answer (i : Instance) (x : Stand) (key : Cql.CacheKey) (heap : Heap) : Bool → Object → Prop where
  | dao (sync : x.plan.isAsync = true → awaits = true) (built : heap.daos[n]? = some ⟨x.type, context⟩)
      (placed : Placed i.outer key heap.contexts context) : Answer i x key heap awaits (.dao n)
  | reference (async : x.plan.isAsync = true) (known : heap.references[r]? = some reference)
      (yields : i.Yields x.type key true (invoke i.module reference.factory reference.arguments)) :
      Answer i x key heap false (.reference r)

def Heap.Has (heap : Heap) : Object → Prop
  | .dao n => n < heap.daos.length
  | .reference n => n < heap.references.length
  | _ => False

-- Heaps only grow: contexts and DAOs stay as they are, and references get an ending.
structure Heap.Grown (heap next : Heap) : Prop where
  contexts : heap.contexts <+: next.contexts
  daos : heap.daos <+: next.daos
  references : ∀ (r : Nat) (reference : LazyReference), heap.references[r]? = some reference →
    ∃ ending, next.references[r]? = some { reference with ending }

theorem prefix_getElem? {all more : List α} {n : Nat} (grown : all <+: more) (there : all[n]? = some a) :
    more[n]? = some a := by
  obtain ⟨rest, rfl⟩ := grown
  rw [List.getElem?_append_left (List.getElem?_eq_some_iff.mp there).1, there]

variable {i : Instance} {cls : String} {xs : List Stand} {heap next : Heap}

theorem answer_grown (answer : i.Answer x key heap awaits o) (grown : heap.Grown next) :
    i.Answer x key next awaits o := by
  cases answer with
  | dao sync built placed =>
    exact .dao sync (prefix_getElem? grown.daos built) ⟨prefix_getElem? grown.contexts placed.narrowed, placed.same⟩
  | reference async known yields =>
    obtain ⟨ending, known⟩ := grown.references _ _ known
    exact .reference async known yields

theorem answer_has (answer : i.Answer x key heap awaits o) : heap.Has o := by
  cases answer with
  | dao _ built _ => exact (List.getElem?_eq_some_iff.mp built).1
  | reference _ known _ => exact (List.getElem?_eq_some_iff.mp known).1

-- Every method has its own field, none in the way of a method, and no two share a cache.
structure Instance.Laid (i : Instance) (cls : String) (xs : List Stand) (heap : Heap) : Prop where
  seated : i.Seated heap
  narrows : ∀ x ∈ xs, x.plan.keyed = true → i.narrows = true
  unclaimed : ∀ x ∈ xs, (i.fields heap).get? x.plan.name = none
  simple : ∀ x ∈ xs, x.plan.keyed = false → ∃ o, (i.fields heap).get? (inClass cls x.field) = some o
  cache : ∀ x ∈ xs, x.plan.keyed = true →
    ∃ c, (i.fields heap).get? (inClass cls x.field) = some (.cache c) ∧ c < heap.caches.length
  apart : ∀ x ∈ xs, ∀ y ∈ xs, x.plan.keyed = true → y.plan.keyed = true →
    (i.fields heap).get? (inClass cls x.field) = (i.fields heap).get? (inClass cls y.field) → x = y

theorem fields_same (mappers : next.mappers = heap.mappers) : i.fields next = i.fields heap := by
  rw [Instance.fields, mappers, Instance.fields]

theorem laid_same (laid : i.Laid cls xs heap) (contexts : heap.contexts <+: next.contexts)
    (mappers : next.mappers = heap.mappers) (caches : next.caches.length = heap.caches.length) :
    i.Laid cls xs next where
  seated.first := prefix_getElem? contexts laid.seated.first
  seated.there := by
    rw [mappers]
    exact laid.seated.there
  seated.context := by simpa only [fields_same mappers] using laid.seated.context
  narrows := laid.narrows
  unclaimed := by simpa only [fields_same mappers] using laid.unclaimed
  simple := by simpa only [fields_same mappers] using laid.simple
  cache := by simpa only [fields_same mappers, caches] using laid.cache
  apart := by simpa only [fields_same mappers] using laid.apart

structure Instance.Ledger (i : Instance) (cls : String) (xs : List Stand) (heap : Heap) : Prop where
  right : ∀ x ∈ xs, ∀ key awaits o, i.settled cls heap x key awaits = some (.ok o) → i.Answer x key heap awaits o
  apart : ∀ x ∈ xs, ∀ y ∈ xs, ∀ key awaits key' awaits' o, i.settled cls heap x key awaits = some (.ok o) →
    i.settled cls heap y key' awaits' = some (.ok o) → x = y ∧ key = key'

theorem ledger_step (x : Stand) (key : Cql.CacheKey) {ys : List Stand} (ledger : i.Ledger cls xs heap)
    (grown : heap.Grown next)
    (news : ∀ y ∈ ys, ∀ key' awaits o, i.settled cls next y key' awaits = some (.ok o) →
      (y ∈ xs ∧ i.settled cls heap y key' awaits = some (.ok o)) ∨
        (y = x ∧ key' = key) ∧ ¬ heap.Has o ∧ i.Answer y key' next awaits o) :
    i.Ledger cls ys next := by
  refine ⟨?_, ?_⟩
  · intro y member key' awaits o settled
    rcases news y member key' awaits o settled with ⟨old, before⟩ | ⟨_, _, answer⟩
    · exact answer_grown (ledger.right y old key' awaits o before) grown
    · exact answer
  · intro y member z member' key₁ awaits₁ key₂ awaits₂ o one two
    rcases news y member _ _ _ one with ⟨old, before⟩ | ⟨⟨rfl, rfl⟩, fresh, _⟩
    · rcases news z member' _ _ _ two with ⟨old', before'⟩ | ⟨_, fresh, _⟩
      · exact ledger.apart y old z old' _ _ _ _ o before before'
      · exact absurd (answer_has (ledger.right y old _ _ o before)) fresh
    · rcases news z member' _ _ _ two with ⟨old', before'⟩ | ⟨⟨rfl, rfl⟩, _, _⟩
      · exact absurd (answer_has (ledger.right z old' _ _ o before')) fresh
      · exact ⟨rfl, rfl⟩

theorem held_simple {x : Stand} (simple : x.plan.keyed = false)
    (field : (i.fields heap).get? (inClass cls x.field) = some o) : i.held cls heap x wholeKey = some o := by
  simp [Instance.held, simple, field]

theorem held_same {x : Stand} (simple : x.plan.keyed = false)
    (same : (i.fields next).get? (inClass cls x.field) = (i.fields heap).get? (inClass cls x.field))
    (key : Cql.CacheKey) : i.held cls next x key = i.held cls heap x key := by
  simp only [Instance.held, simple, same]
  cases (i.fields heap).get? (inClass cls x.field) <;> rfl

theorem held_keyed {x : Stand} (keyed : x.plan.keyed = true)
    (field : (i.fields heap).get? (inClass cls x.field) = some (.cache c)) (key : Cql.CacheKey) :
    i.held cls heap x key = heap.caches[c]?.bind (·.get? key) := by
  simp [Instance.held, keyed, field]

theorem settled_raw {x : Stand} :
    i.settled cls heap x key false = some e ↔ ∃ o, i.held cls heap x key = some o ∧ e = .ok o := by
  have raw : ∀ o, heap.answer? false o = some (.ok o) := by
    intro o
    cases o <;> rfl
  constructor
  · intro settled
    obtain ⟨o, held, same⟩ := Option.bind_eq_some_iff.mp settled
    rw [raw] at same
    exact ⟨o, held, (Option.some.inj same).symm⟩
  · rintro ⟨o, held, rfl⟩
    simp [Instance.settled, held, raw]

def Instance.Later (i : Instance) (cls : String) (xs : List Stand) (heap next : Heap) : Prop :=
  ∀ x ∈ xs, ∀ key awaits e, i.settled cls heap x key awaits = some e → i.settled cls next x key awaits = some e

theorem Instance.Later.refl : i.Later cls xs heap heap := fun _ _ _ _ _ settled => settled

theorem Instance.Later.trans (first : i.Later cls xs heap middle) (second : i.Later cls xs middle next) :
    i.Later cls xs heap next :=
  fun x there key awaits e settled => second x there key awaits e (first x there key awaits e settled)

structure Instance.Sound (i : Instance) (cls : String) (xs : List Stand) (heap : Heap) : Prop where
  laid : i.Laid cls xs heap
  ledger : i.Ledger cls xs heap

structure Raised (h : Hierarchy) (c : ClassId) (heap next : Heap) (f : Failure) : Prop where
  failing : heap.failing? h c = some f
  kept : ∃ contexts failing, next = { heap with contexts, failing }

theorem aside_sound (sound : i.Sound cls xs heap) (more : List Context) (failing : ClassId → Nat → Option String) :
    i.Sound cls xs { heap with contexts := heap.contexts ++ more, failing } := by
  refine ⟨laid_same sound.laid (List.prefix_append _ _) rfl rfl, ?_⟩
  refine ⟨fun x member key awaits o settled => ?_, sound.ledger.apart⟩
  exact answer_grown (sound.ledger.right x member key awaits o settled)
    ⟨List.prefix_append _ _, List.prefix_refl _, fun r reference known => ⟨reference.ending, known⟩⟩

theorem answer?_appended (unended : ∀ r ∈ more, r.ending = none) (references : next.references = heap.references ++ more)
    (awaits : Bool) (o : Object) : next.answer? awaits o = heap.answer? awaits o := by
  cases o with
  | reference r =>
    cases awaits with
    | false => rfl
    | true =>
      simp only [Heap.answer?, if_true, references]
      by_cases old : r < heap.references.length
      · rw [List.getElem?_append_left old]
      · rw [List.getElem?_append_right (Nat.le_of_not_lt old), List.getElem?_eq_none (Nat.le_of_not_lt old)]
        cases there : more[r - heap.references.length]? with
        | none => rfl
        | some reference => exact unended reference (List.mem_of_getElem? there)
  | _ => rfl

theorem held_stored {x : Stand} (laid : i.Laid cls xs heap) (there : x ∈ xs) (keyed : x.plan.keyed = true)
    (field : (i.fields heap).get? (inClass cls x.field) = some (.cache c)) (mappers : next.mappers = heap.mappers)
    (caches : next.caches = heap.caches.modify c (·.put key o)) :
    i.held cls next x key = some o ∧
      ∀ y ∈ xs, ∀ key', ¬ (y = x ∧ key' = key) → i.held cls next y key' = i.held cls heap y key' := by
  have fields : i.fields next = i.fields heap := fields_same mappers
  obtain ⟨c', same, inside⟩ := laid.cache x there keyed
  obtain rfl : c' = c := by simpa [same] using field
  have stored : next.caches[c']? = some (heap.caches[c'].put key o) := by
    rw [caches, List.getElem?_modify_eq, List.getElem?_eq_getElem inside]
    rfl
  refine ⟨?_, ?_⟩
  · rw [held_keyed keyed (by rw [fields, field]), stored]
    exact Cache.Store.get?_put_same _ _ _
  · intro y member key' other
    cases kind : y.plan.keyed with
    | false => exact held_same kind (by rw [fields]) key'
    | true =>
      obtain ⟨d, field', inside'⟩ := laid.cache y member kind
      rw [held_keyed kind (by rw [fields, field']), held_keyed kind field']
      by_cases one : y = x
      · subst one
        obtain rfl : d = c' := by simpa [field'] using field
        rw [stored, List.getElem?_eq_getElem inside]
        exact Cache.Store.get?_put_other _ _ fun same => other ⟨rfl, same⟩
      · have foreign : c' ≠ d := by
          rintro rfl
          exact one (laid.apart y member x there kind keyed (field'.trans field.symm))
        rw [caches, List.getElem?_modify_ne _ _ foreign]

theorem stored_sound {x : Stand} (sound : i.Sound cls xs heap) (there : x ∈ xs) (keyed : x.plan.keyed = true)
    (field : (i.fields heap).get? (inClass cls x.field) = some (.cache c)) (absent : i.held cls heap x key = none)
    (contexts : heap.contexts <+: next.contexts) (daos : heap.daos <+: next.daos)
    (unended : ∀ r ∈ more, r.ending = none) (references : next.references = heap.references ++ more)
    (mappers : next.mappers = heap.mappers) (caches : next.caches = heap.caches.modify c (·.put key o))
    (answers : ∀ awaits o', next.answer? awaits o = some (.ok o') → ¬ heap.Has o' ∧ i.Answer x key next awaits o') :
    i.Sound cls xs next ∧ i.Later cls xs heap next ∧ i.settled cls next x key false = some (.ok o) := by
  obtain ⟨held, others⟩ := held_stored sound.laid there keyed field mappers caches
  have size : next.caches.length = heap.caches.length := by rw [caches, List.length_modify]
  have grown : heap.Grown next := by
    refine ⟨contexts, daos, fun r reference known => ⟨reference.ending, ?_⟩⟩
    rw [references, List.getElem?_append_left (List.getElem?_eq_some_iff.mp known).1, known]
  -- References that are added have not ended, so they answer nothing yet.
  have kept : ∀ y ∈ xs, ∀ key', ¬ (y = x ∧ key' = key) → ∀ awaits,
      i.settled cls next y key' awaits = i.settled cls heap y key' awaits := by
    intro y member key' other awaits
    rw [Instance.settled, others y member key' other, Instance.settled]
    exact congrArg _ (funext fun o' => answer?_appended unended references awaits o')
  refine ⟨⟨laid_same sound.laid contexts mappers size, ?_⟩, ?_, settled_raw.mpr ⟨o, held, rfl⟩⟩
  · refine ledger_step x key sound.ledger grown ?_
    intro y member key' awaits o' settled
    by_cases here : y = x ∧ key' = key
    · refine .inr ⟨here, ?_⟩
      obtain ⟨rfl, rfl⟩ := here
      rw [Instance.settled, held] at settled
      exact answers awaits o' settled
    · rw [kept y member key' here] at settled
      exact .inl ⟨member, settled⟩
  · intro y member key' awaits e settled
    by_cases here : y = x ∧ key' = key
    · obtain ⟨rfl, rfl⟩ := here
      simp [Instance.settled, absent] at settled
    · rwa [kept y member key' here]

section

variable {r : Nat} (references : next.references = heap.references.modify r fun reference =>
  { reference with ending := some e })

include references

theorem ended_other (other : ¬ (awaits = true ∧ o = .reference r)) : next.answer? awaits o = heap.answer? awaits o := by
  cases o with
  | reference r' =>
    cases awaits with
    | false => rfl
    | true =>
      have foreign : r ≠ r' := by
        rintro rfl
        exact other ⟨rfl, rfl⟩
      simp only [Heap.answer?, references, List.getElem?_modify_ne _ _ foreign]
  | _ => rfl

theorem ended_grown (contexts : heap.contexts <+: next.contexts) (daos : heap.daos <+: next.daos) : heap.Grown next := by
  refine ⟨contexts, daos, fun r' reference known => ?_⟩
  by_cases same : r = r'
  · subst same
    exact ⟨some e, by simp [references, known]⟩
  · refine ⟨reference.ending, ?_⟩
    rw [references, List.getElem?_modify_ne _ _ same, known]

theorem ended_sound {x : Stand} {reference : LazyReference} (sound : i.Sound cls xs heap) (there : x ∈ xs)
    (held : i.held cls heap x key = some (.reference r)) (known : heap.references[r]? = some reference)
    (unended : reference.ending = none) (contexts : heap.contexts <+: next.contexts)
    (daos : heap.daos <+: next.daos) (mappers : next.mappers = heap.mappers) (caches : next.caches = heap.caches)
    (answers : ∀ o, e = .ok o → ¬ heap.Has o ∧ i.Answer x key next true o) :
    i.Sound cls xs next ∧ i.Later cls xs heap next ∧ i.settled cls next x key true = some e := by
  have fields : i.fields next = i.fields heap := fields_same mappers
  have kept : ∀ y key', i.held cls next y key' = i.held cls heap y key' := by
    intro y key'
    simp only [Instance.held, fields, caches]
  have ended : next.answer? true (.reference r) = some e := by
    simp [Heap.answer?, references, known]
  have waiting : heap.answer? true (.reference r) = none := by
    simp [Heap.answer?, known, unended]
  refine ⟨⟨laid_same sound.laid contexts mappers (by rw [caches]), ?_⟩, ?_, ?_⟩
  · refine ledger_step x key sound.ledger (ended_grown references contexts daos) ?_
    intro y member key' awaits o settled
    obtain ⟨o', own, answered⟩ := Option.bind_eq_some_iff.mp settled
    rw [kept] at own
    by_cases here : awaits = true ∧ o' = .reference r
    · obtain ⟨rfl, rfl⟩ := here
      -- Only the holder of the reference has it.
      obtain ⟨rfl, rfl⟩ := sound.ledger.apart y member x there key' false key false _
        (settled_raw.mpr ⟨_, own, rfl⟩) (settled_raw.mpr ⟨_, held, rfl⟩)
      rw [ended] at answered
      exact .inr ⟨⟨rfl, rfl⟩, answers o (Option.some.inj answered)⟩
    · rw [ended_other references here] at answered
      exact .inl ⟨member, Option.bind_eq_some_iff.mpr ⟨o', own, answered⟩⟩
  · intro y member key' awaits e' settled
    obtain ⟨o', own, answered⟩ := Option.bind_eq_some_iff.mp settled
    refine Option.bind_eq_some_iff.mpr ⟨o', (kept y key').trans own, ?_⟩
    rw [ended_other references, answered]
    rintro ⟨rfl, rfl⟩
    rw [waiting] at answered
    cases answered
  · rw [Instance.settled, kept, held]
    exact ended

end

end DaoMapper.Execution
