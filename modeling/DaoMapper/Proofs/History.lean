import DaoMapper.Proofs.Ledger

-- Sequences of calls on one mapper: what each of them is answered, and how the answers
-- go together.
namespace DaoMapper.Execution

open Interface (ClassId Hierarchy)
open Mapper

variable {i : Instance} {cls : String} {xs : List Stand} {x : Stand} {heap next : Heap}

-- What a call for a key has come to: its answer is settled, an error only where a
-- construction was awaited, or the construction failed at once and nothing is.
inductive Instance.Settles (i : Instance) (cls : String) (x : Stand) (key : Cql.CacheKey) (awaits : Bool)
    (heap next : Heap) : Except Failure Object → Prop where
  | answered (known : i.settled cls next x key awaits = some result)
      (blamed : ∀ f, result = .error f → x.plan.isAsync = true ∧ awaits = true ∧
        (i.settled cls heap x key true = some (.error f) ∨ heap.failing? i.module.hierarchy x.type = some f))
      (waiting : x.plan.isAsync = true → awaits = false →
        next.failing = heap.failing ∧ i.settled cls next x key true = i.settled cls heap x key true) :
      Settles i cls x key awaits heap next result
  | raised (sync : x.plan.isAsync = false) (keyed : x.plan.keyed = true)
      (open_ : i.settled cls heap x key false = none) (raised : Raised i.module.hierarchy x.type heap next f) :
      Settles i cls x key awaits heap next (.error f)

theorem Instance.Settles.given (known : i.settled cls next x key awaits = some (.ok o))
    (waiting : x.plan.isAsync = true → awaits = false →
      next.failing = heap.failing ∧ i.settled cls next x key true = i.settled cls heap x key true) :
    i.Settles cls x key awaits heap next (.ok o) :=
  .answered known nofun waiting

theorem construct_cases (h : Hierarchy) (c : ClassId) (n : Nat) (heap : Heap) (more : List Context) :
    (heap.failing? h c = none ∧ ends (construct h c n) { heap with contexts := heap.contexts ++ more } =
      (.ok (.dao heap.daos.length),
        { heap with
          contexts := heap.contexts ++ more
          daos := heap.daos ++ [⟨c, n⟩]
          failing := (heap.attempted c).failing })) ∨
    ∃ f, heap.failing? h c = some f ∧ ends (construct h c n) { heap with contexts := heap.contexts ++ more } =
      (.error f, { heap with contexts := heap.contexts ++ more, failing := (heap.attempted c).failing }) := by
  have same : Heap.failing? { heap with contexts := heap.contexts ++ more } h c = heap.failing? h c := rfl
  cases fails : heap.failing? h c with
  | none => exact .inl ⟨rfl, ends_construct_ok (same.trans fails) n⟩
  | some f => exact .inr ⟨f, rfl, ends_construct_error (same.trans fails) n⟩

theorem construct_made (sound : i.Sound cls xs heap) (there : x ∈ xs) (keyed : x.plan.keyed = true)
    (sync : x.plan.isAsync = false) (field : (i.fields heap).get? (inClass cls x.field) = some (.cache c))
    (absent : i.held cls heap x key = none) (placed : Placed i.outer key (heap.contexts ++ more) n)
    (made : next = { heap with
      contexts := heap.contexts ++ more
      daos := heap.daos ++ [⟨x.type, n⟩]
      failing := failing
      caches := heap.caches.modify c (·.put key (.dao heap.daos.length)) }) :
    i.Sound cls xs next ∧ i.Later cls xs heap next ∧
      i.settled cls next x key false = some (.ok (.dao heap.daos.length)) := by
  subst made
  refine stored_sound sound there keyed field absent (List.prefix_append _ _) (List.prefix_append _ _)
    (List.forall_mem_nil _) (List.append_nil _).symm rfl rfl ?_
  intro awaits o answered
  cases answered
  refine ⟨Nat.lt_irrefl _, .dao ?_ List.getElem?_concat_length placed⟩
  intro async
  rw [sync] at async
  cases async

theorem reference_made (sound : i.Sound cls xs heap) (there : x ∈ xs) (keyed : x.plan.keyed = true)
    (async : x.plan.isAsync = true) (field : (i.fields heap).get? (inClass cls x.field) = some (.cache c))
    (absent : i.held cls heap x key = none)
    (yields : i.Yields x.type key x.plan.isAsync (invoke i.module factory arguments))
    (made : next = { heap with
      references := heap.references ++ [⟨factory, arguments, none⟩]
      caches := heap.caches.modify c (·.put key (.reference heap.references.length)) }) :
    i.Sound cls xs next ∧ i.Later cls xs heap next ∧
      i.settled cls next x key false = some (.ok (.reference heap.references.length)) := by
  subst made
  refine stored_sound sound there keyed field absent (List.prefix_refl _) (List.prefix_refl _)
    ?_ rfl rfl rfl ?_
  · intro reference member
    rw [List.mem_singleton.mp member]
  · intro awaits o answered
    cases awaits with
    | true => simp [Heap.answer?] at answered
    | false =>
      cases answered
      exact ⟨Nat.lt_irrefl _, .reference async List.getElem?_concat_length (async ▸ yields)⟩

theorem known_settles (sound : i.Sound cls xs heap) (known : i.settled cls heap x key awaits = some (.ok o)) :
    i.Sound cls xs heap ∧ i.Later cls xs heap heap ∧ i.Settles cls x key awaits heap heap (.ok o) :=
  ⟨sound, .refl, .given known fun _ _ => ⟨rfl, rfl⟩⟩

section

variable (sound : i.Sound cls xs heap) (there : x ∈ xs) (keyed : x.plan.keyed = true)
  (field : (i.fields heap).get? (inClass cls x.field) = some (.cache c))
  (yields : i.Yields x.type key x.plan.isAsync (invoke i.module factory [.key key]))

include sound there keyed field yields

theorem reference_settles (absent : i.held cls heap x key = none) (async : x.plan.isAsync = true)
    (called : ends (computeIfAbsent c key (newReference factory [.key key])) heap = (result, next)) :
    i.Sound cls xs next ∧ i.Later cls xs heap next ∧ i.Settles cls x key false heap next result := by
  rw [computeIfAbsent_made ((held_keyed keyed field key).symm.trans absent) (ends_newReference _ _ _)] at called
  cases called
  obtain ⟨sound', later, known⟩ := reference_made sound there keyed async field absent yields rfl
  refine ⟨sound', later, .given known fun _ _ => ⟨rfl, ?_⟩⟩
  obtain ⟨_, held, same⟩ := settled_raw.mp known
  cases same
  rw [Instance.settled, held, Instance.settled, absent]
  simp [Heap.answer?]

theorem construct_settles (absent : i.held cls heap x key = none) (sync : x.plan.isAsync = false)
    (called : ends (computeIfAbsent c key (invoke i.module factory [.key key])) heap = (result, next)) :
    i.Sound cls xs next ∧ i.Later cls xs heap next ∧ i.Settles cls x key false heap next result := by
  have missing := (held_keyed keyed field key).symm.trans absent
  obtain ⟨n, more, placed, narrowed⟩ := yields heap sound.laid.seated
  rw [sync, if_neg Bool.false_ne_true] at narrowed
  rcases construct_cases i.module.hierarchy x.type n heap more with ⟨fails, made⟩ | ⟨f, fails, failed⟩
  · rw [computeIfAbsent_made missing (narrowed.trans made)] at called
    cases called
    obtain ⟨sound', later, known⟩ := construct_made sound there keyed sync field absent placed rfl
    refine ⟨sound', later, .given known ?_⟩
    intro async
    rw [sync] at async
    cases async
  · rw [computeIfAbsent_failed missing (narrowed.trans failed)] at called
    cases called
    refine ⟨aside_sound sound more _, fun _ _ _ _ _ settled => settled, ?_⟩
    refine .raised sync keyed ?_ ⟨fails, _, _, rfl⟩
    rw [Instance.settled, absent]
    rfl

theorem keyed_settles
    (called : ends (computeIfAbsent c key (if x.plan.isAsync then newReference factory [.key key]
      else invoke i.module factory [.key key])) heap = (result, next)) :
    i.Sound cls xs next ∧ i.Later cls xs heap next ∧ i.Settles cls x key false heap next result := by
  cases found : i.held cls heap x key with
  | some o =>
    rw [computeIfAbsent_hit ((held_keyed keyed field key).symm.trans found)] at called
    cases called
    exact known_settles sound (settled_raw.mpr ⟨o, found, rfl⟩)
  | none =>
    cases async : x.plan.isAsync with
    | true =>
      rw [async, if_pos rfl] at called
      exact reference_settles sound there keyed field yields found async called
    | false =>
      rw [async, if_neg Bool.false_ne_true] at called
      exact construct_settles sound there keyed field yields found async called

end

theorem call_settles (ready : Stand.Ready x i.module cls settings)
    (context : i.contextName = inClass cls settings.contextAttribute) (sound : i.Sound cls xs heap) (there : x ∈ xs)
    (accepted : x.plan.key cls arguments keywords = .ok key)
    (called : ends (callMethod i.module i.number x.plan.name arguments keywords) heap = (result, next)) :
    i.Sound cls xs next ∧ i.Later cls xs heap next ∧ i.Settles cls x key false heap next result := by
  have unclaimed := sound.laid.unclaimed x there
  have inside := sound.laid.seated.there
  cases keyed : x.plan.keyed with
  | false =>
    obtain ⟨o, field⟩ := sound.laid.simple x there keyed
    obtain ⟨method, planned⟩ := ready.planned
    obtain rfl := (plan_ok planned).1
    obtain rfl := key_bare x.plan cls ((plan_bare planned).mp keyed) accepted
    rw [call_simple ready inside unclaimed keyed accepted field] at called
    cases called
    exact known_settles sound (settled_raw.mpr ⟨o, held_simple keyed field, rfl⟩)
  | true =>
    obtain ⟨c, field, _⟩ := sound.laid.cache x there keyed
    obtain ⟨given, bound, same⟩ := call_keyed ready inside unclaimed keyed context accepted field
    have yields := keyed_yields ready (sound.laid.narrows x there keyed) keyed bound key
    exact keyed_settles sound there keyed field yields (same.symm.trans called)

theorem ends_awaitReference_ended {m : Loaded} {r : Nat} {reference : LazyReference}
    (known : heap.references[r]? = some reference) (ended : reference.ending = some e) :
    ends (awaitReference m r) heap = (e, heap) := by
  unfold awaitReference
  cases e <;> simp [ends_bind, known, ended]

theorem ends_awaitReference {m : Loaded} {r : Nat} {reference : LazyReference} {middle : Heap}
    (known : heap.references[r]? = some reference) (unended : reference.ending = none)
    (started : ends (invoke m reference.factory reference.arguments) heap = (.ok (.coroutine c n), middle))
    (built : ends (construct m.hierarchy c n) middle = (e, next)) :
    ends (awaitReference m r) heap = (e, { next with
      references := next.references.modify r fun reference => { reference with ending := some e } }) := by
  unfold awaitReference
  cases e <;> simp [ends_bind, ends_tryCatch, ends_map, known, unended, started, built]

section

variable {r : Nat} {reference : LazyReference} (sound : i.Sound cls xs heap) (there : x ∈ xs)
  (held : i.held cls heap x key = some (.reference r)) (known : heap.references[r]? = some reference)
  (unended : reference.ending = none)

include sound there held known unended

theorem ending_made (placed : Placed i.outer key (heap.contexts ++ more) n)
    (made : next = { heap with
      contexts := heap.contexts ++ more
      daos := heap.daos ++ [⟨x.type, n⟩]
      failing := failing
      references := heap.references.modify r fun reference =>
        { reference with ending := some (.ok (.dao heap.daos.length)) } }) :
    i.Sound cls xs next ∧ i.Later cls xs heap next ∧
      i.settled cls next x key true = some (.ok (.dao heap.daos.length)) := by
  subst made
  refine ended_sound rfl sound there held known unended (List.prefix_append _ _) (List.prefix_append _ _) rfl rfl ?_
  intro o same
  cases same
  exact ⟨Nat.lt_irrefl _, .dao (fun _ => rfl) List.getElem?_concat_length placed⟩

theorem ending_failed (more : List Context)
    (failed : next = { heap with
      contexts := heap.contexts ++ more
      failing := failing
      references := heap.references.modify r fun reference => { reference with ending := some (.error f) } }) :
    i.Sound cls xs next ∧ i.Later cls xs heap next ∧ i.settled cls next x key true = some (.error f) := by
  subst failed
  refine ended_sound rfl sound there held known unended (List.prefix_append _ _) (List.prefix_refl _) rfl rfl ?_
  intro o same
  cases same

end

theorem await_settles (sound : i.Sound cls xs heap) (there : x ∈ xs)
    (raw : i.settled cls heap x key false = some (.ok o))
    (called : ends (awaited i.module o) heap = (result, next)) :
    i.Sound cls xs next ∧ i.Later cls xs heap next ∧ i.Settles cls x key true heap next result := by
  obtain ⟨_, held, same⟩ := settled_raw.mp raw
  cases same
  cases sound.ledger.right x there key false o raw with
  | dao _ _ _ =>
    cases called
    refine known_settles sound ?_
    rw [Instance.settled, held]
    rfl
  | @reference r reference async known yields =>
    have settled : i.settled cls heap x key true = reference.ending := by
      simp [Instance.settled, held, Heap.answer?, known]
    cases ended : reference.ending with
    | some e =>
      rw [awaited, ends_awaitReference_ended known ended] at called
      cases called
      have settled := settled.trans ended
      refine ⟨sound, .refl, .answered settled ?_ fun _ _ => ⟨rfl, rfl⟩⟩
      rintro f rfl
      exact ⟨async, rfl, .inl settled⟩
    | none =>
      obtain ⟨n, more, placed, started⟩ := yields heap sound.laid.seated
      rw [if_pos rfl] at started
      rcases construct_cases i.module.hierarchy x.type n heap more with ⟨fails, built⟩ | ⟨f, fails, failed⟩
      · rw [awaited, ends_awaitReference known ended started built] at called
        cases called
        obtain ⟨sound', later, known'⟩ := ending_made sound there held known ended placed rfl
        exact ⟨sound', later, .given known' fun _ same => Bool.noConfusion same⟩
      · rw [awaited, ends_awaitReference known ended started failed] at called
        cases called
        obtain ⟨sound', later, known'⟩ := ending_failed sound there held known ended more rfl
        refine ⟨sound', later, .answered known' ?_ fun _ same => Bool.noConfusion same⟩
        intro f' same
        cases same
        exact ⟨async, rfl, .inr fails⟩

structure Call where
  method : String
  arguments : List Object
  keywords : Variables
  awaits : Bool

def Session.perform (s : Session) (mapper : Nat) (c : Call) : Except Failure Object × Session :=
  if c.awaits then s.callAndAwait mapper c.method c.arguments c.keywords
  else s.call mapper c.method c.arguments c.keywords

structure Step where
  call : Call
  before : Heap
  result : Except Failure Object
  after : Heap

def Session.history (s : Session) (mapper : Nat) : List Call → List Step
  | [] => []
  | c :: rest =>
    let (result, next) := s.perform mapper c
    ⟨c, s.heap, result, next.heap⟩ :: next.history mapper rest

def Call.key (c : Call) (p : Plan) (cls : String) : Except Failure Cql.CacheKey := p.key cls c.arguments c.keywords

def Call.run (c : Call) (m : Loaded) (mapper : Nat) : Eval Object :=
  if c.awaits then do awaited m (← callMethod m mapper c.method c.arguments c.keywords)
  else callMethod m mapper c.method c.arguments c.keywords

theorem perform_run (s : Session) (mapper : Nat) (c : Call) : s.perform mapper c =
    ((ends (c.run s.module mapper) s.heap).1, { s with heap := (ends (c.run s.module mapper) s.heap).2 }) := by
  unfold Session.perform Call.run
  split <;> rfl

theorem run_refused {c : Call} (ready : Stand.Ready x i.module cls settings) (sound : i.Sound cls xs heap)
    (there : x ∈ xs) (named : x.plan.name = c.method) (refused : c.key x.plan cls = .error f) :
    ends (c.run i.module i.number) heap = (.error f, heap) := by
  have called := call_refused ready (sound.laid.unclaimed x there) refused
  rw [named] at called
  unfold Call.run
  split
  · exact ends_bind_error called _
  · exact called

theorem run_settles {c : Call} (ready : Stand.Ready x i.module cls settings)
    (context : i.contextName = inClass cls settings.contextAttribute) (sound : i.Sound cls xs heap) (there : x ∈ xs)
    (named : x.plan.name = c.method) (accepted : c.key x.plan cls = .ok key)
    (ran : ends (c.run i.module i.number) heap = (result, next)) :
    i.Sound cls xs next ∧ i.Later cls xs heap next ∧ i.Settles cls x key c.awaits heap next result := by
  cases called : ends (callMethod i.module i.number c.method c.arguments c.keywords) heap with
  | mk raw middle =>
    obtain ⟨sound', later, settles⟩ := call_settles ready context sound there accepted (named.symm ▸ called)
    unfold Call.run at ran
    cases awaits : c.awaits with
    | false =>
      rw [awaits, if_neg Bool.false_ne_true, called] at ran
      cases ran
      exact ⟨sound', later, settles⟩
    | true =>
      rw [awaits, if_pos rfl] at ran
      cases settles with
      | raised sync keyed open_ raised =>
        rw [ends_bind_error called] at ran
        cases ran
        exact ⟨sound', later, .raised sync keyed open_ raised⟩
      | answered known _ waiting =>
        obtain ⟨o, held, rfl⟩ := settled_raw.mp known
        rw [ends_bind_ok called] at ran
        obtain ⟨sound'', later', settles⟩ := await_settles sound' there known ran
        refine ⟨sound'', later.trans later', ?_⟩
        cases settles with
        | raised _ _ open_ _ =>
          rw [known] at open_
          cases open_
        | answered known' blamed _ =>
          refine .answered known' ?_ (fun _ same => nomatch same)
          intro f failed
          obtain ⟨async, _, cause⟩ := blamed f failed
          obtain ⟨failing, same⟩ := waiting async rfl
          rw [same] at cause
          simp only [Heap.failing?, failing] at cause ⊢
          exact ⟨async, trivial, cause⟩

theorem settles_again (later : i.Later cls xs heap next) (there : x ∈ xs)
    (settles : i.Settles cls x key awaits heap next result) (settled : i.settled cls heap x key awaits = some e) :
    result = e := by
  cases settles with
  | answered known _ _ =>
    rw [later x there key awaits e settled] at known
    exact (Option.some.inj known).symm
  | raised _ _ open_ _ =>
    obtain ⟨o, held, _⟩ := Option.bind_eq_some_iff.mp settled
    rw [settled_raw.mpr ⟨o, held, rfl⟩] at open_
    cases open_

structure Instance.Stepped (i : Instance) (cls : String) (xs : List Stand) (t : Step) : Prop where
  before : i.Sound cls xs t.before
  after : i.Sound cls xs t.after
  later : i.Later cls xs t.before t.after
  refused : ∀ x ∈ xs, x.plan.name = t.call.method → ∀ f, t.call.key x.plan cls = .error f →
    t.result = .error f ∧ t.after = t.before
  settles : ∀ x ∈ xs, x.plan.name = t.call.method → ∀ key, t.call.key x.plan cls = .ok key →
    i.Settles cls x key t.call.awaits t.before t.after t.result

theorem run_stepped {c : Call} (ready : ∀ x ∈ xs, Stand.Ready x i.module cls settings)
    (context : i.contextName = inClass cls settings.contextAttribute) (sound : i.Sound cls xs heap)
    (asked : ∃ x ∈ xs, x.plan.name = c.method) (ran : ends (c.run i.module i.number) heap = (result, next)) :
    i.Stepped cls xs ⟨c, heap, result, next⟩ := by
  have refused : ∀ x ∈ xs, x.plan.name = c.method → ∀ f, c.key x.plan cls = .error f →
      result = .error f ∧ next = heap := by
    intro x there named f refused
    rw [run_refused (ready x there) sound there named refused] at ran
    cases ran
    exact ⟨rfl, rfl⟩
  have settles : ∀ x (there : x ∈ xs), x.plan.name = c.method → ∀ key, c.key x.plan cls = .ok key → _ :=
    fun x there named key accepted => run_settles (ready x there) context sound there named accepted ran
  obtain ⟨x, there, named⟩ := asked
  have advanced : i.Sound cls xs next ∧ i.Later cls xs heap next := by
    cases accepted : c.key x.plan cls with
    | error f =>
      obtain ⟨_, rfl⟩ := refused x there named f accepted
      exact ⟨sound, .refl⟩
    | ok key =>
      obtain ⟨sound', later, _⟩ := settles x there named key accepted
      exact ⟨sound', later⟩
  exact ⟨sound, advanced.1, advanced.2, refused, fun x there named key accepted =>
    (settles x there named key accepted).2.2⟩

theorem history_stepped {s : Session} {calls : List Call} (ready : ∀ x ∈ xs, Stand.Ready x i.module cls settings)
    (context : i.contextName = inClass cls settings.contextAttribute) (module : s.module = i.module)
    (sound : i.Sound cls xs s.heap) (asked : ∀ c ∈ calls, ∃ x ∈ xs, x.plan.name = c.method) :
    (∀ t ∈ s.history i.number calls, i.Stepped cls xs t ∧ i.Later cls xs s.heap t.before) ∧
      (s.history i.number calls).Pairwise fun t u => i.Later cls xs t.after u.before := by
  induction calls generalizing s with
  | nil => exact ⟨List.forall_mem_nil _, .nil⟩
  | cons c rest ih =>
    cases ran : ends (c.run i.module i.number) s.heap with
    | mk result next =>
      have performed : s.perform i.number c = (result, { s with heap := next }) := by
        rw [perform_run, module, ran]
      have stepped := run_stepped ready context sound (asked c List.mem_cons_self) ran
      obtain ⟨each, ordered⟩ := @ih { s with heap := next } module stepped.after
        fun c member => asked c (List.mem_cons_of_mem _ member)
      simp only [Session.history, performed]
      refine ⟨List.forall_mem_cons.mpr ⟨⟨stepped, .refl⟩, ?_⟩,
        List.pairwise_cons.mpr ⟨fun t member => (each t member).2, ordered⟩⟩
      intro t member
      obtain ⟨stepped', later'⟩ := each t member
      exact ⟨stepped', stepped.later.trans later'⟩

end DaoMapper.Execution
