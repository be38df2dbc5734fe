import DaoMapper.Proofs.Nesting
import DaoMapper.Proofs.Collision

-- The cache and the references that generated code works on are those whose runs are
-- studied by themselves: what code does to them is a step of such a run.
namespace DaoMapper.Cache

section

variable {s : State} {r : Reference} {refs : List Reference} {calls : List Call} {answers : List (Nat × Ending)}

theorem Loop.run_done (refs : List Reference) (calls : List Call) (answers : List (Nat × Ending)) :
    (⟨refs, [], calls, answers⟩ : Loop).run = some ⟨refs, [], calls, answers⟩ := by
  rw [Loop.run]

theorem Loop.run_job {job : Job} {rest : List Job} {next : Loop}
    (moves : (⟨refs, rest, calls, answers⟩ : Loop).advance job = next) :
    (⟨refs, job :: rest, calls, answers⟩ : Loop).run = next.run := by
  rw [Loop.run]
  dsimp only
  rw [moves]

theorem gather_run (ran : (⟨s.refs, [.look 0 n], s.calls, []⟩ : Loop).run = some ⟨refs, [], calls, [(0, ending)]⟩) :
    s.gather [n] = ({ s with refs, calls }, [some ending]) := by
  simp [State.gather, gather, ran, Loop.answerOf]

theorem gather_ended (known : s.refs[n]? = some r) (ended : r.phase = .done ending) :
    s.gather [n] = (s, [some ending]) := by
  have looked : (⟨s.refs, [], s.calls, []⟩ : Loop).advance (.look 0 n) = ⟨s.refs, [], s.calls, [(0, ending)]⟩ := by
    simp [Loop.advance, Loop.join, known, ended, Loop.answer]
  apply gather_run
  rw [Loop.run_job looked, Loop.run_done]

theorem gather_refused (known : s.refs[n]? = some r) (idle : r.phase = .idle)
    (refuses : r.nextOutcome = .refuse message) :
    s.gather [n] = ({ s with refs := s.refs.set n r.called, calls := s.calls ++ [r.call] }, [some (.error message)]) := by
  have looked : (⟨s.refs, [], s.calls, []⟩ : Loop).advance (.look 0 n) =
      ⟨s.refs.set n r.called, [], s.calls ++ [r.call], [(0, .error message)]⟩ := by
    simp [Loop.advance, Loop.join, known, idle, refuses, Loop.answer, Loop.setRef]
  apply gather_run
  rw [Loop.run_job looked, Loop.run_done]

-- A coroutine that waits for nothing ends before anybody is woken.
theorem gather_first (known : s.refs[n]? = some r) (idle : r.phase = .idle)
    (makes : r.nextOutcome = .make (.done ending)) :
    s.gather [n] =
      ({ s with refs := s.refs.set n { r.called with phase := .done ending }, calls := s.calls ++ [r.call] },
        [some ending]) := by
  have inside : n < s.refs.length := (List.getElem?_eq_some_iff.mp known).1
  have looked : (⟨s.refs, [], s.calls, []⟩ : Loop).advance (.look 0 n) =
      ⟨s.refs.set n { r.called with phase := .running [.slot 0] }, [.begin n (.done ending)], s.calls ++ [r.call], []⟩ := by
    simp [Loop.advance, Loop.join, known, idle, makes, Loop.setRef]
  have begun : (⟨s.refs.set n { r.called with phase := .running [.slot 0] }, [], s.calls ++ [r.call], []⟩ : Loop).advance
      (.begin n (.done ending)) =
      ⟨s.refs.set n { r.called with phase := .done ending }, [.wake (.slot 0) n ending], s.calls ++ [r.call], []⟩ := by
    simp [Loop.advance, Loop.drive, Loop.finish, Loop.setRef, inside, Phase.waiters]
  have woken : (⟨s.refs.set n { r.called with phase := .done ending }, [], s.calls ++ [r.call], []⟩ : Loop).advance
      (.wake (.slot 0) n ending) =
      ⟨s.refs.set n { r.called with phase := .done ending }, [], s.calls ++ [r.call], [(0, ending)]⟩ := rfl
  apply gather_run
  rw [Loop.run_job looked, Loop.run_job begun, Loop.run_job woken, Loop.run_done]

end

end DaoMapper.Cache

namespace DaoMapper.Execution

open Cache (Ending Key Stored)

structure Showing where
  value : Object → Value
  message : Failure → String

namespace Showing

variable (v : Showing)

def stored : Object → Stored
  | .reference r => .ref r
  | o => .value (v.value o)

def ending : Except Failure Object → Ending
  | .ok o => .ok (v.value o)
  | .error f => .error (v.message f)

def phase (ending : Option (Except Failure Object)) : Cache.Phase := ending.elim .idle fun e => .done (v.ending e)

def answer (e : Except Failure Object) : Except String Stored := (e.map v.stored).mapError v.message

end Showing

-- A heap and the state of a run show the same cache and the same references.
structure Pictured (v : Showing) (heap : Heap) (n : Nat) (s : Cache.State) : Prop where
  free : s.busy = []
  store : heap.caches[n]?.map (fun c => c.entries.map fun e => (Key.pair e.1, v.stored e.2)) = some s.store.entries
  references : s.refs.map (·.phase) = heap.references.map fun r => v.phase r.ending

-- What the first await of a reference comes to, as a run would have it.
inductive Foreseen (v : Showing) (m : Loaded) (reference : LazyReference) (heap next : Heap) : Cache.Outcome → Prop where
  | refused (asked : ends (invoke m reference.factory reference.arguments) heap = (.error f, next)) :
      Foreseen v m reference heap next (.refuse (v.message f))
  | made (asked : ends (invoke m reference.factory reference.arguments) heap = (.ok (.coroutine c context), middle))
      (built : ends (construct m.hierarchy c context) middle = (e, next)) :
      Foreseen v m reference heap next (.make (.done (v.ending e)))

theorem putEntry_shown (v : Showing) (entries : List (Cql.CacheKey × Object)) (key : Cql.CacheKey) (o : Object) :
    (Cache.Store.putEntry entries key o).map (fun e => (Key.pair e.1, v.stored e.2)) =
      Cache.Store.putEntry (entries.map fun e => (Key.pair e.1, v.stored e.2)) (.pair key) (v.stored o) := by
  induction entries with
  | nil => rfl
  | cons e rest ih =>
    by_cases same : e.1 = key
    · simp [Cache.Store.putEntry, same]
    · simp [Cache.Store.putEntry, same, ih]

namespace Pictured

variable {v : Showing} {heap middle : Heap} {s : Cache.State} {r : Nat} {reference : LazyReference}
  {other : Cache.Reference}

theorem kept (pictured : Pictured v heap n s) (caches : middle.caches = heap.caches)
    (references : middle.references = heap.references) : Pictured v middle n s :=
  ⟨pictured.free, caches ▸ pictured.store, references ▸ pictured.references⟩

theorem got (pictured : Pictured v heap n s) (key : Cql.CacheKey) :
    s.store.get? (.pair key) = (heap.caches[n]?.bind (·.get? key)).map v.stored := by
  obtain ⟨cache, there, entries⟩ := Option.map_eq_some_iff.mp pictured.store
  rw [there, Cache.Store.get?, ← entries]
  simp [Cache.Store.get?, List.find?_map, Function.comp_def]

theorem put (pictured : Pictured v heap n s) (key : Cql.CacheKey) (o : Object) :
    Pictured v { heap with caches := heap.caches.modify n (·.put key o) } n
      { s with store := s.store.put (.pair key) (v.stored o) } := by
  obtain ⟨cache, there, entries⟩ := Option.map_eq_some_iff.mp pictured.store
  refine ⟨pictured.free, ?_, pictured.references⟩
  rw [List.getElem?_modify_eq, there, Cache.Store.put, ← entries]
  exact congrArg some (putEntry_shown v cache.entries key o)

theorem left (pictured : Pictured v heap n s) (key : Cql.CacheKey) :
    Pictured v heap n ((s.enter (.pair key)).leave (.pair key)) :=
  ⟨by simp [Cache.State.leave, pictured.free], pictured.store, pictured.references⟩

theorem unblocked (pictured : Pictured v heap n s) (key : Key) : key ∉ s.busy := by
  rw [pictured.free]
  exact List.not_mem_nil

-- A factory that leaves the cache and the references alone is asked where the key is
-- missing, and what it gives is stored.
theorem compute (pictured : Pictured v heap n s) (made : ends make heap = (result, middle))
    (kept : Pictured v middle n s) (plain : ∀ o, result = .ok o → v.stored o = .value (v.value o))
    (key : Cql.CacheKey) :
    ∃ next called, s.step (.compute (.pair key) [] (v.ending result)) =
        some (next, .computed (v.answer (ends (computeIfAbsent n key make) heap).1) called [] next.store.size) ∧
      Pictured v (ends (computeIfAbsent n key make) heap).2 n next := by
  have got := pictured.got key
  cases held : heap.caches[n]?.bind (·.get? key) with
  | some o =>
    rw [held] at got
    rw [computeIfAbsent_hit held]
    exact ⟨s, false, Cache.State.step_found got [] _, pictured⟩
  | none =>
    rw [held] at got
    have called := Cache.State.step_called got (pictured.unblocked _) [] (v.ending result)
    have left := kept.left key
    cases result with
    | error f =>
      rw [computeIfAbsent_failed held made]
      exact ⟨_, true, called, left⟩
    | ok o =>
      rw [computeIfAbsent_made held made]
      have put := left.put key o
      rw [plain o rfl] at put
      refine ⟨_, true, ?_, put⟩
      simp only [Showing.answer, Except.map, Except.mapError, plain o rfl]
      exact called

theorem refer (pictured : Pictured v heap n s) (key : Cql.CacheKey) (factory : Object) (arguments : List Object)
    (outcomes : List Cache.Outcome) :
    ∃ next stored started, s.step (.computeAsync (.pair key) outcomes) = some (next, .reference stored started next.store.size) ∧
      v.answer (ends (computeIfAbsent n key (newReference factory arguments)) heap).1 = .ok stored ∧
      Pictured v (ends (computeIfAbsent n key (newReference factory arguments)) heap).2 n next := by
  have got := pictured.got key
  cases held : heap.caches[n]?.bind (·.get? key) with
  | some o =>
    rw [held] at got
    rw [computeIfAbsent_hit held]
    exact ⟨s, v.stored o, s.startedOf (v.stored o), Cache.State.step_foundReference got outcomes, rfl, pictured⟩
  | none =>
    rw [held] at got
    have many : s.refs.length = heap.references.length := by
      simpa using congrArg List.length pictured.references
    have grown : Pictured v { heap with references := heap.references ++ [⟨factory, arguments, none⟩] } n
        (({ s with busy := .pair key :: s.busy }.addRef (.async (.pair key)) outcomes).2.leave (.pair key)) := by
      refine ⟨(pictured.left key).free, pictured.store, ?_⟩
      simp [Cache.State.leave, Cache.State.addRef, pictured.references, Cache.Reference.new, Showing.phase]
    have put := grown.put key (.reference heap.references.length)
    rw [computeIfAbsent_made held (ends_newReference _ _ _), ← many]
    rw [← many] at put
    exact ⟨_, _, _, Cache.State.step_referred got (pictured.unblocked _) outcomes, rfl, put⟩

theorem ending_known (pictured : Pictured v heap n s) (known : heap.references[r]? = some reference)
    (shown : s.refs[r]? = some other) : other.phase = v.phase reference.ending := by
  have same := congrArg (·[r]?) pictured.references
  simpa [known, shown] using same

-- A reference is awaited like that of the run, if its factory does what the run says that
-- its next call does.
theorem await (pictured : Pictured v heap n s) (known : heap.references[r]? = some reference)
    (shown : s.refs[r]? = some other)
    (foreseen : reference.ending = none → ∃ next, Foreseen v m reference heap next other.nextOutcome ∧ Pictured v next n s) :
    ∃ next, s.gather [r] = (next, [some (v.ending (ends (awaitReference m r) heap).1)]) ∧
      Pictured v (ends (awaitReference m r) heap).2 n next := by
  have phase := pictured.ending_known known shown
  cases ended : reference.ending with
  | some e =>
    rw [ended] at phase
    rw [ends_awaitReference_ended known ended]
    exact ⟨s, Cache.gather_ended shown phase, pictured⟩
  | none =>
    rw [ended] at phase
    obtain ⟨next, outcome, kept⟩ := foreseen ended
    generalize told : other.nextOutcome = call at outcome
    cases outcome with
    | refused asked =>
      rw [ends_awaitReference_refused known ended asked]
      refine ⟨_, Cache.gather_refused shown phase told, kept.free, kept.store, ?_⟩
      obtain ⟨inside, here⟩ := List.getElem?_eq_some_iff.mp shown
      have unchanged : (s.refs.set r other).map (·.phase) = s.refs.map (·.phase) := by
        rw [← here, List.set_getElem_self]
      rw [List.map_set] at unchanged ⊢
      exact unchanged.trans kept.references
    | made asked built =>
      rw [ends_awaitReference known ended asked built]
      refine ⟨_, Cache.gather_first shown phase told, kept.free, kept.store, ?_⟩
      rw [List.map_set, kept.references]
      refine List.ext_getElem? fun k => ?_
      by_cases same : r = k
      · subst same
        by_cases inside : r < next.references.length <;> simp [Showing.phase, inside]
      · simp [same]

end Pictured

section

variable {v : Showing} {i : Instance} {heap next : Heap} {s : Cache.State} (ready : Stand.Ready x i.module cls settings)
  (context : i.contextName = inClass cls settings.contextAttribute) (sound : i.Sound cls xs heap) (there : x ∈ xs)
  (keyed : x.plan.keyed = true) (field : (i.fields heap).get? (inClass cls x.field) = some (.cache c))
  (accepted : x.plan.key cls arguments keywords = .ok key) (pictured : Pictured v heap c s)
  (called : ends (callMethod i.module i.number x.plan.name arguments keywords) heap = (result, next))

include ready context sound there keyed field accepted pictured called

-- A call of a method with parameters is a step of a run on its cache.
theorem call_computes (sync : x.plan.isAsync = false) :
    ∃ ending last asked, s.step (.compute (.pair key) [] ending) =
        some (last, .computed (v.answer result) asked [] last.store.size) ∧ Pictured v next c last := by
  obtain ⟨given, bound, same⟩ :=
    call_keyed ready sound.laid.seated.there (sound.laid.unclaimed x there) keyed context accepted field
  have yields := keyed_yields ready (sound.laid.narrows x there keyed) keyed bound key
  obtain ⟨n, more, -, narrowed⟩ := yields heap sound.laid.seated
  rw [sync, if_neg Bool.false_ne_true] at same narrowed
  rw [called] at same
  have settles {outcome : Except Failure Object} {middle : Heap}
      (made : ends (invoke i.module (x.factory i given key) [.key key]) heap = (outcome, middle))
      (kept : Pictured v middle c s) (plain : ∀ o, outcome = .ok o → v.stored o = .value (v.value o)) :
      ∃ ending last asked, s.step (.compute (.pair key) [] ending) =
          some (last, .computed (v.answer result) asked [] last.store.size) ∧ Pictured v next c last := by
    obtain ⟨last, asked, stepped, shown⟩ := pictured.compute made kept plain key
    rw [← same] at stepped shown
    exact ⟨_, last, asked, stepped, shown⟩
  rcases construct_cases i.module.hierarchy x.type n heap more with ⟨-, made⟩ | ⟨f, -, failed⟩
  · refine settles (narrowed.trans made) (pictured.kept rfl rfl) ?_
    intro o built
    cases built
    rfl
  · exact settles (narrowed.trans failed) (pictured.kept rfl rfl) nofun

theorem call_refers (async : x.plan.isAsync = true) (outcomes : List Cache.Outcome) :
    ∃ last stored started, s.step (.computeAsync (.pair key) outcomes) =
        some (last, .reference stored started last.store.size) ∧ v.answer result = .ok stored ∧ Pictured v next c last := by
  obtain ⟨given, bound, same⟩ :=
    call_keyed ready sound.laid.seated.there (sound.laid.unclaimed x there) keyed context accepted field
  rw [async, if_pos rfl, called] at same
  have refers := pictured.refer key (x.factory i given key) [.key key] outcomes
  rwa [← same] at refers

end

end DaoMapper.Execution
