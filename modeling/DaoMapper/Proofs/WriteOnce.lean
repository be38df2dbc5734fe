import DaoMapper.Proofs.Bindings

-- Runs whose factories do not clear the cache: it is a map that is written once. What
-- is bound is what factories have returned since the last clear, in that order.
namespace DaoMapper.Cache

mutual

def Step.clears : Step → Bool
  | .compute _ body _ => Step.anyClears body
  | .clear => true
  | _ => false

def Step.anyClears : List Step → Bool
  | [] => false
  | one :: rest => one.clears || Step.anyClears rest

end

def Step.calm : Step → Bool
  | .compute _ body _ => !Step.anyClears body
  | _ => true

def keys (held : List (Key × Stored)) : List Key := held.map (·.1)

-- What a step is answered and what it leaves behind where `held` is bound. A factory
-- that is called runs its steps from a state in which only its key is under way more.
inductive Served (held : List (Key × Stored)) (s : State) : Step → State → Answer → Prop where
  | found (bound : (key, stored) ∈ held) :
      Served held s (.compute key body ending) s (.computed (.ok stored) false [] held.length)
  | made (unbound : key ∉ keys held) (factory : Run (.start (s.enter key) body) nested (.ended middle answers))
      (own : key ∉ keys (bindings nested))
      (binds : next.store.entries = held ++ bindings nested ++ [(key, .value value)])
      (calls : next.calls = s.calls ++ .compute key :: calledKeys nested) :
      Served held s (.compute key body (.ok value)) next
        (.computed (.ok (.value value)) true answers next.store.entries.length)
  | failed (unbound : key ∉ keys held) (factory : Run (.start (s.enter key) body) nested (.ended middle answers))
      (own : key ∉ keys (bindings nested))
      (binds : next.store.entries = held ++ bindings nested)
      (calls : next.calls = s.calls ++ .compute key :: calledKeys nested) :
      Served held s (.compute key body (.error message)) next
        (.computed (.error message) true answers next.store.entries.length)
  | foundReference (bound : (key, stored) ∈ held) :
      Served held s (.computeAsync key outcomes) s (.reference stored (s.startedOf stored) (some held.length))
  | referred (unbound : key ∉ keys held) (fresh : next.refs = s.refs ++ [.new (.async key) outcomes])
      (binds : next.store.entries = held ++ [(key, .ref s.refs.length)]) (calls : next.calls = s.calls) :
      Served held s (.computeAsync key outcomes) next
        (.reference (.ref s.refs.length) false (some next.store.entries.length))
  | got (bound : (key, stored) ∈ held) : Served held s (.get key) s (.got (some stored))
  | missed (unbound : key ∉ keys held) : Served held s (.get key) s (.got none)
  | contained : Served held s (.contains key) s (.contained (decide (key ∈ keys held)))
  | counted : Served held s .len s (.size held.length)
  | cleared (empty : next.store.entries = []) (calls : next.calls = s.calls) : Served held s .clear next (.size 0)
  | aside (outside : one.outside = true) (store : next.store = s.store) (calls : next.calls = s.calls) :
      Served held s one next answer

def Quiet : List Frame → List Step → Prop
  | [], todo => ∀ one ∈ todo, one.calm = true
  | f :: frames, todo => Step.anyClears todo = false ∧ Quiet frames f.rest

def Machine.Reenters (m : Machine) : Prop :=
  ∃ f ∈ m.frames, (∃ body ending rest, m.todo = .compute f.key body ending :: rest) ∨
    ∃ outcomes rest, m.todo = .computeAsync f.key outcomes :: rest

structure Kept (history : List Event) (m : Machine) : Prop where
  quiet : Quiet m.frames m.todo
  unseen : ∀ f ∈ factories history, f.2 = false
  entries : m.state.store.entries = bindings history
  distinct : (keys (bindings history)).Nodup

variable {first s next : State} {m after : Machine} {frames : List Frame} {rest script : List Step}
  {history : List Event} {e : Event} {key : Key} {one : Step}

theorem Quiet.behind (quiet : Quiet frames (one :: rest)) : Quiet frames rest := by
  cases frames with
  | nil => exact fun other among => quiet other (List.mem_cons_of_mem _ among)
  | cons f frames =>
    simp only [Quiet, Step.anyClears, Bool.or_eq_false_iff] at quiet
    exact ⟨quiet.1.2, quiet.2⟩

theorem Quiet.within (quiet : Quiet frames (.compute key body ending :: rest)) : Step.anyClears body = false := by
  cases frames with
  | nil => simpa [Step.calm] using quiet _ (List.mem_cons_self ..)
  | cons f frames =>
    simp only [Quiet, Step.anyClears, Step.clears, Bool.or_eq_false_iff] at quiet
    exact quiet.1.1

theorem Move.quiet (move : Move m e after) (quiet : Quiet m.frames m.todo) : Quiet after.frames after.todo := by
  cases move with
  | called => exact ⟨quiet.within, quiet.behind⟩
  | made | failed => exact quiet.2
  | _ => exact Quiet.behind quiet

theorem Move.cleared_outside (move : Move m e after) (quiet : Quiet m.frames m.todo) (clears : e.clears = true) :
    m.frames = [] := by
  cases move with
  | @cleared _ frames =>
    cases frames with
    | nil => rfl
    | cons f frames => simp [Quiet, Step.anyClears, Step.clears] at quiet
  | _ => cases clears

theorem Move.unseen (move : Move m e after) (guarded : Guarded history m) (kept : Kept history m) :
    ∀ f ∈ factories (history ++ [e]), f.2 = false := by
  rw [factories_snoc]
  cases move with
  | called => simpa [Event.onFactories] using kept.unseen
  | made | failed => exact fun f under => kept.unseen f (List.mem_of_mem_tail under)
  | cleared =>
    have none_under := guarded.stack
    rw [Move.cleared_outside .cleared kept.quiet rfl, List.map_nil, eq_comm, List.map_eq_nil_iff] at none_under
    simp [Event.onFactories, none_under]
  | _ => exact kept.unseen

theorem Kept.innermost_unbound (kept : Kept history ⟨s, ⟨key, how, outer, rest⟩ :: frames, answered, todo⟩)
    (guarded : Guarded history ⟨s, ⟨key, how, outer, rest⟩ :: frames, answered, todo⟩) : s.store.get? key = none := by
  rcases guarded.unbound_or_seen with unbound | ⟨under, at_factories⟩
  · exact unbound
  · cases kept.unseen (key, true) (by rw [at_factories]; exact List.mem_cons_self ..)

theorem Move.binds_new (move : Move m e after) (guarded : Guarded history m) (kept : Kept history m)
    (binds : e.binding? = some (key, stored)) : m.state.store.get? key = none := by
  cases move with
  | made =>
    simp only [Event.binding?, Option.some.injEq, Prod.mk.injEq] at binds
    obtain ⟨rfl, rfl⟩ := binds
    exact kept.innermost_unbound guarded
  | referred absent =>
    simp only [Event.binding?, Option.some.injEq, Prod.mk.injEq] at binds
    obtain ⟨rfl, rfl⟩ := binds
    exact absent
  | _ => cases binds

theorem Move.kept (move : Move m e after) (guarded : Guarded history m) (kept : Kept history m) :
    Kept (history ++ [e]) after := by
  have store := move.store_exact
  have quiet := move.quiet kept.quiet
  have unseen := move.unseen guarded kept
  cases clears : e.clears with
  | true =>
    have none_bound : bindings (history ++ [e]) = [] := by simp [bindings_snoc, clears]
    rw [clears, if_pos rfl] at store
    exact ⟨quiet, unseen, by rw [store, none_bound]; rfl, by simp [none_bound, keys]⟩
  | false =>
    simp only [clears, Bool.false_eq_true, if_false] at store
    cases binds : e.binding? with
    | none =>
      have same : bindings (history ++ [e]) = bindings history := by simp [bindings_snoc, clears, binds]
      rw [binds, Option.elim_none] at store
      exact ⟨quiet, unseen, by rw [store, same, kept.entries], same ▸ kept.distinct⟩
    | some b =>
      obtain ⟨key, stored⟩ := b
      have more : bindings (history ++ [e]) = bindings history ++ [(key, stored)] := by
        simp [bindings_snoc, clears, binds]
      have absent := move.binds_new guarded kept binds
      have entries : after.state.store.entries = bindings (history ++ [e]) := by
        rw [store, binds, Option.elim_some, Store.put_absent absent, kept.entries, more]
      have new : key ∉ keys (bindings history) := by
        rw [Store.get?_none_iff, kept.entries] at absent
        exact absent
      refine ⟨quiet, unseen, entries, ?_⟩
      rw [more, keys, List.map_append]
      exact List.Nodup.append kept.distinct (List.nodup_singleton _) (by simpa [keys] using new)

theorem Kept.start (fresh : first.Fresh) (calm : ∀ one ∈ script, one.calm = true) :
    Kept [] (.start first script) where
  quiet := calm
  unseen := by simp [factories]
  entries := by simp [Machine.start, fresh.empty, bindings, sinceClear, Store.empty]
  distinct := .nil

theorem Run.kept (ran : Run m later after) (guarded : Guarded history m) (kept : Kept history m) :
    Guarded (history ++ later) after ∧ Kept (history ++ later) after := by
  induction ran with
  | start => simpa using And.intro guarded kept
  | move _ last ih =>
    rw [← List.append_assoc]
    exact ⟨last.guarded ih.1, last.kept ih.1 ih.2⟩

theorem Kept.found_iff (kept : Kept history m) (key : Key) (stored : Stored) :
    m.state.store.get? key = some stored ↔ (key, stored) ∈ bindings history := by
  rw [← kept.entries]
  refine Store.get?_some_iff ?_ key stored
  rw [kept.entries]
  exact kept.distinct

theorem Kept.absent_iff (kept : Kept history m) (key : Key) :
    m.state.store.get? key = none ↔ key ∉ keys (bindings history) := by
  rw [Store.get?_none_iff, kept.entries, keys]

theorem Kept.size (kept : Kept history m) : m.state.store.size = (bindings history).length := by
  rw [Store.size, kept.entries]

theorem Run.quiet (ran : Run m history after) (quiet : Quiet m.frames m.todo) : Quiet after.frames after.todo := by
  induction ran with
  | start => exact quiet
  | move _ last ih => exact last.quiet ih

theorem Run.inside_clears (ran : Run m history after) (quiet : Quiet (m.frames ++ f :: frames) m.todo) :
    ∀ e ∈ history, e.clears = false := by
  induction ran with
  | start => simp
  | @move _ _ e _ before last ih =>
    intro other among
    rcases List.mem_append.mp among with earlier | newest
    · exact ih other earlier
    · rw [List.mem_singleton] at newest
      subst newest
      refine Bool.eq_false_iff.mpr fun clears => ?_
      have outermost := (last.inside (f :: frames)).cleared_outside ((before.inside (f :: frames)).quiet quiet) clears
      simp [Machine.inside] at outermost

-- What a factory has done when it is through with its steps.
theorem Kept.factory (kept : Kept history ⟨s, frames, answered, .compute key body how :: rest⟩)
    (guarded : Guarded history ⟨s, frames, answered, .compute key body how :: rest⟩)
    (absent : s.store.get? key = none) (free : key ∉ s.busy)
    (factory : Run (.start (s.enter key) body) nested (.ended middle answers)) :
    middle.store.get? key = none ∧ middle.store.entries = bindings history ++ bindings nested ∧
      key ∉ keys (bindings nested) ∧ middle.calls = s.calls ++ .compute key :: calledKeys nested := by
  have called : Move ⟨s, frames, answered, .compute key body how :: rest⟩ (.called key)
      ⟨s.enter key, ⟨key, how, answered, rest⟩ :: frames, [], body⟩ := .called absent free
  have inside := factory.inside (⟨key, how, answered, rest⟩ :: frames)
  obtain ⟨guarded', kept'⟩ := inside.kept (called.guarded guarded) (called.kept guarded kept)
  have unbound := kept'.innermost_unbound guarded'
  have bound : bindings (history ++ [.called key] ++ nested) = bindings history ++ bindings nested := by
    rw [bindings_append _ (factory.inside_clears (called.quiet kept.quiet)), bindings_snoc]
    simp [Event.clears, Event.binding?]
  refine ⟨unbound, kept'.entries.trans bound, ?_, ?_⟩
  · have outside := (kept'.absent_iff key).mp unbound
    rw [bound, keys, List.map_append, List.mem_append, not_or] at outside
    exact outside.2
  · have calls := factory.calls_exact
    simpa [Machine.start, Machine.ended] using calls

theorem Kept.compute_served (kept : Kept history ⟨s, frames, answered, .compute key body how :: rest⟩)
    (guarded : Guarded history ⟨s, frames, answered, .compute key body how :: rest⟩)
    (ran : s.step (.compute key body how) = some (next, answer)) :
    Served (bindings history) s (.compute key body how) next answer := by
  cases stored : s.store.get? key with
  | some v =>
    rw [State.step_found stored, Option.some.injEq, Prod.mk.injEq] at ran
    obtain ⟨rfl, rfl⟩ := ran
    rw [show s.store.size = (bindings history).length from kept.size]
    exact .found ((kept.found_iff key v).mp stored)
  | none =>
    have unbound := (kept.absent_iff key).mp stored
    by_cases busy : key ∈ s.busy
    · rw [State.step_busy stored busy] at ran
      cases ran
    · rw [State.step_called stored busy, Option.map_eq_some_iff] at ran
      obtain ⟨⟨middle, answers⟩, through, concluded⟩ := ran
      obtain ⟨nested, factory⟩ := (steps_exact _ _).mp through
      obtain ⟨absent, entries, own, calls⟩ := kept.factory guarded stored busy factory
      cases how with
      | error message =>
        simp only [State.conclude, Prod.mk.injEq] at concluded
        obtain ⟨rfl, rfl⟩ := concluded
        exact .failed unbound factory own entries calls
      | ok value =>
        simp only [State.conclude, Prod.mk.injEq] at concluded
        obtain ⟨rfl, rfl⟩ := concluded
        exact .made unbound factory own ((Store.put_absent absent _).trans (by rw [entries])) calls

theorem Kept.reference_served (kept : Kept history ⟨s, frames, answered, .computeAsync key outcomes :: rest⟩)
    (ran : s.step (.computeAsync key outcomes) = some (next, answer)) :
    Served (bindings history) s (.computeAsync key outcomes) next answer := by
  cases stored : s.store.get? key with
  | some v =>
    rw [State.step_foundReference stored, Option.some.injEq, Prod.mk.injEq] at ran
    obtain ⟨rfl, rfl⟩ := ran
    rw [show s.store.size = (bindings history).length from kept.size]
    exact .foundReference ((kept.found_iff key v).mp stored)
  | none =>
    have unbound := (kept.absent_iff key).mp stored
    by_cases busy : key ∈ s.busy
    · rw [State.step_busyReference stored busy] at ran
      cases ran
    · rw [State.step_referred stored busy, Option.some.injEq, Prod.mk.injEq] at ran
      obtain ⟨rfl, rfl⟩ := ran
      have entries : s.store.entries = bindings history := kept.entries
      exact .referred unbound rfl ((Store.put_absent stored _).trans (by rw [entries])) rfl

theorem Kept.served (kept : Kept history ⟨s, frames, answered, one :: rest⟩)
    (guarded : Guarded history ⟨s, frames, answered, one :: rest⟩) (ran : s.step one = some (next, answer)) :
    Served (bindings history) s one next answer := by
  cases one with
  | compute key body how => exact kept.compute_served guarded ran
  | computeAsync key outcomes => exact kept.reference_served ran
  | get key =>
    simp only [State.step, Option.some.injEq, Prod.mk.injEq] at ran
    obtain ⟨rfl, rfl⟩ := ran
    cases stored : s.store.get? key with
    | some v => exact .got ((kept.found_iff key v).mp stored)
    | none => exact .missed ((kept.absent_iff key).mp stored)
  | contains key =>
    simp only [State.step, Option.some.injEq, Prod.mk.injEq] at ran
    obtain ⟨rfl, rfl⟩ := ran
    have there : s.store.contains key = decide (key ∈ keys (bindings history)) := by
      have absent := kept.absent_iff key
      simp only at absent
      cases stored : s.store.get? key <;> simp_all [Store.contains]
    rw [there]
    exact .contained
  | len =>
    simp only [State.step, Option.some.injEq, Prod.mk.injEq] at ran
    obtain ⟨rfl, rfl⟩ := ran
    rw [show s.store.size = (bindings history).length from kept.size]
    exact .counted
  | clear =>
    simp only [State.step, Option.some.injEq, Prod.mk.injEq] at ran
    obtain ⟨rfl, rfl⟩ := ran
    exact .cleared rfl rfl
  | newRef | started | calls =>
    obtain ⟨store, -, calls⟩ := State.step_outside rfl ran
    exact .aside rfl store calls

theorem Machine.Blocked.reenters (blocked : m.Blocked) (guarded : Guarded history m) : m.Reenters := by
  obtain ⟨key, rest, -, busy, asks⟩ := blocked
  have under : key ∈ m.frames.map (·.key) := by
    rw [guarded.stack]
    rw [guarded.busy, Cache.guarded] at busy
    obtain ⟨f, among, rfl⟩ := List.mem_map.mp busy
    exact List.mem_map_of_mem (List.mem_filter.mp among).1
  obtain ⟨f, among, rfl⟩ := List.mem_map.mp under
  refine ⟨f, among, ?_⟩
  rcases asks with ⟨body, ending, asks⟩ | ⟨outcomes, asks⟩
  · exact .inl ⟨body, ending, rest, asks⟩
  · exact .inr ⟨outcomes, rest, asks⟩

-- What is bound at a point, and what a step comes to there; and a script is answered
-- unless a factory waits for itself.
structure WriteOnce (first : State) (script : List Step) : Prop where
  bound : ∀ history m, Run (.start first script) history m → m.state.store.entries = bindings history
  once : ∀ history m, Run (.start first script) history m → (keys (bindings history)).Nodup
  called : ∀ history m, Run (.start first script) history m → m.state.calls = first.calls ++ calledKeys history
  served : ∀ history m one rest next answer, Run (.start first script) history m → m.todo = one :: rest →
    m.state.step one = some (next, answer) → Served (bindings history) m.state one next answer
  runs : ∀ next answers, first.steps script = some (next, answers) ↔
    ∃ history, Run (.start first script) history (.ended next answers)
  answered : (∀ history m, Run (.start first script) history m → ¬ m.Reenters) → first.steps script ≠ none

theorem write_once (fresh : first.Fresh) (calm : ∀ one ∈ script, one.calm = true) : WriteOnce first script := by
  have start : Guarded [] (.start first script) := .start fresh script
  have begun : Kept [] (.start first script) := .start fresh calm
  exact {
    bound := fun history m ran => (ran.kept start begun).2.entries
    once := fun history m ran => (ran.kept start begun).2.distinct
    called := fun history m ran => ran.calls_exact
    served := by
      intro history m one rest next answer ran asks stepped
      obtain ⟨guarded, kept⟩ := ran.kept start begun
      obtain ⟨s, frames, answered, todo⟩ := m
      simp only at asks
      subst asks
      exact kept.served guarded stepped
    runs := fun next answers => steps_exact first script
    answered := by
      intro enters nothing
      obtain ⟨history, stuck, ran, blocked⟩ := (steps_none_exact first script).mp nothing
      exact enters history stuck ran (blocked.reenters (ran.guarded fresh)) }

-- The factory of `a` raises after those of `b` and `c` are through; that of `b` is not
-- called again, and `a` is computed once more, before and after a clear.
def lapse : List Step :=
  [.compute (.name "a") [.compute (.name "b") [] (.ok (.int 1)), .computeAsync (.name "c") []] (.error "lost"),
    .compute (.name "b") [.compute (.name "a") [] (.ok (.int 9))] (.ok (.int 2)),
    .compute (.name "a") [.get (.name "b")] (.ok (.int 3)), .clear, .compute (.name "a") [] (.ok (.int 4))]

theorem lapse_written_once : State.initial.Fresh ∧ (∀ one ∈ lapse, one.calm = true) ∧ WriteOnce .initial lapse ∧
    (State.initial.steps (lapse.take 3)).map (fun r => (keys r.1.store.entries, r.1.calls)) =
      some ([.name "b", .name "c", .name "a"],
        [.compute (.name "a"), .compute (.name "b"), .compute (.name "a")]) ∧
    (State.initial.steps lapse).map (fun r => keys r.1.store.entries) = some [.name "a"] :=
  ⟨⟨rfl, rfl⟩, by decide, write_once ⟨rfl, rfl⟩ (by decide), by decide +kernel, by decide +kernel⟩

end DaoMapper.Cache
