import DaoMapper.Proofs.Clearing

-- A whole step on the cache, with all that is nested in it: the references it makes are
-- idle, it leaves no key under way, and what is bound stays bound unless it clears.
namespace DaoMapper.Cache

variable {s next : State} {m after : Machine} {history : List Event} {key : Key} {one : Step}

theorem State.outside_grown (outside : one.outside = true) (ran : s.step one = some (next, answer)) :
    ∃ made, next.refs = s.refs ++ made ∧ ∀ r ∈ made, r.phase = .idle ∧ r.call = .ref := by
  cases one with
  | newRef outcomes =>
    simp only [State.step, Option.some.injEq, Prod.mk.injEq] at ran
    obtain ⟨rfl, -⟩ := ran
    exact ⟨[.new _ _], rfl, by simp [Reference.new]⟩
  | started | calls =>
    simp only [State.step, Option.some.injEq, Prod.mk.injEq] at ran
    obtain ⟨rfl, -⟩ := ran
    exact ⟨[], by simp, by simp⟩
  | _ => cases outside

theorem Move.refs_grown (move : Move m e after) :
    ∃ made, after.state.refs = m.state.refs ++ made ∧ ∀ r ∈ made, r.phase = .idle := by
  cases move with
  | referred => exact ⟨[.new _ _], rfl, by simp [Reference.new]⟩
  | aside outside ran =>
    obtain ⟨made, refs, fresh⟩ := State.outside_grown outside ran
    exact ⟨made, refs, fun r among => (fresh r among).1⟩
  | _ => exact ⟨[], by simp [State.enter, State.bind, State.leave, State.clear], by simp⟩

theorem Run.refs_grown (ran : Run m history after) :
    ∃ made, after.state.refs = m.state.refs ++ made ∧ ∀ r ∈ made, r.phase = .idle := by
  induction ran with
  | start => exact ⟨[], by simp, by simp⟩
  | move _ last ih =>
    obtain ⟨early, refs, idle⟩ := ih
    obtain ⟨late, more, fresh⟩ := last.refs_grown
    refine ⟨early ++ late, by rw [more, refs, List.append_assoc], fun r among => ?_⟩
    rcases List.mem_append.mp among with old | new
    · exact idle r old
    · exact fresh r new

theorem State.step_run (ran : s.step one = some (next, answer)) :
    ∃ history, Run (.start s [one]) history (.ended next [answer]) :=
  (steps_exact s [one]).mp (by simp [State.steps, ran])

theorem State.step_grown (ran : s.step one = some (next, answer)) :
    ∃ made, next.refs = s.refs ++ made ∧ ∀ r ∈ made, r.phase = .idle := by
  obtain ⟨history, run⟩ := State.step_run ran
  exact run.refs_grown

theorem Guarded.between (unused : s.busy = []) (script : List Step) : Guarded [] (.start s script) where
  stack := rfl
  inner := .nil
  busy := unused
  distinct := by simp [Machine.start, unused]
  unbound := by simp [Machine.start, unused]

theorem Run.guarded_between (ran : Run (.start s script) history m) (unused : s.busy = []) : Guarded history m := by
  generalize begun : Machine.start s script = m₀ at ran
  induction ran with
  | start => exact begun ▸ .between unused script
  | move _ last ih => exact last.guarded ih

theorem State.step_unused (ran : s.step one = some (next, answer)) (unused : s.busy = []) : next.busy = [] := by
  obtain ⟨history, run⟩ := State.step_run ran
  have held := run.guarded_between unused
  have none_under : factories history = [] := by simpa [Machine.ended] using held.stack
  have busy := held.busy
  rwa [none_under] at busy

def Still (m : Machine) : Prop := Step.anyClears m.todo = false ∧ ∀ f ∈ m.frames, Step.anyClears f.rest = false

theorem Move.still (move : Move m e after) (still : Still m) : Still after ∧ e.clears = false := by
  obtain ⟨here, around⟩ := still
  cases move with
  | called =>
    simp only [Step.anyClears, Step.clears, Bool.or_eq_false_iff] at here
    refine ⟨⟨here.1, ?_⟩, rfl⟩
    rintro f (_ | ⟨_, among⟩)
    · exact here.2
    · exact around f among
  | made | failed =>
    exact ⟨⟨around _ (List.mem_cons_self ..), fun f among => around f (List.mem_cons_of_mem _ among)⟩, rfl⟩
  | cleared => simp [Step.anyClears, Step.clears] at here
  | _ =>
    simp only [Step.anyClears, Bool.or_eq_false_iff] at here
    exact ⟨⟨here.2, around⟩, rfl⟩

theorem Run.still (ran : Run m history after) (still : Still m) : Still after ∧ ∀ e ∈ history, e.clears = false := by
  induction ran with
  | start => exact ⟨still, by simp⟩
  | move _ last ih =>
    obtain ⟨rest, quiet⟩ := last.still ih.1
    refine ⟨rest, fun e among => ?_⟩
    rcases List.mem_append.mp among with old | new
    · exact ih.2 e old
    · exact List.mem_singleton.mp new ▸ quiet

theorem factories_unseen (quiet : ∀ e ∈ history, e.clears = false) : ∀ f ∈ factories history, f.2 = false := by
  induction history using List.reverseRecOn with
  | nil => simp [factories]
  | append_singleton history e ih =>
    have before := ih fun other among => quiet other (by simp [among])
    have now := quiet e (by simp)
    rw [factories_snoc]
    cases e with
    | called key => simpa [Event.onFactories] using before
    | made | failed => exact fun f among => before f (List.mem_of_mem_tail among)
    | cleared => cases now
    | _ => exact before

theorem Run.retains (ran : Run (.start s script) history m) (unused : s.busy = [])
    (quiet : ∀ e ∈ history, e.clears = false) (bound : s.store.get? key = some stored) :
    m.state.store.get? key = some stored := by
  generalize begun : Machine.start s script = m₀ at ran
  induction ran with
  | start => exact begun ▸ bound
  | @move history _ e _ before last ih =>
    subst begun
    have earlier : ∀ e ∈ history, e.clears = false := fun other among => quiet other (by simp [among])
    refine last.stays (fun overwrites => ?_) (quiet e (by simp)) (ih earlier)
    obtain ⟨key, under, at_factories⟩ := overwrites.seen last (before.guarded_between unused)
    have unseen := factories_unseen earlier (key, true) (by rw [at_factories]; exact List.mem_cons_self ..)
    cases unseen

theorem Move.unmade (move : Move m e after) (bound : m.state.store.get? key = some stored) :
    ∃ made, after.state.refs = m.state.refs ++ made ∧ ∀ r ∈ made, r.call ≠ .async key := by
  cases move with
  | referred absent =>
    refine ⟨[.new _ _], rfl, ?_⟩
    rintro r among same
    obtain rfl := List.mem_singleton.mp among
    obtain rfl := Call.async.inj same
    cases absent.symm.trans bound
  | aside outside ran =>
    obtain ⟨made, refs, fresh⟩ := State.outside_grown outside ran
    refine ⟨made, refs, ?_⟩
    rintro r among same
    cases (fresh r among).2.symm.trans same
  | _ => exact ⟨[], by simp [State.enter, State.bind, State.leave, State.clear], by simp⟩

theorem Run.unmade (ran : Run (.start s script) history m) (unused : s.busy = [])
    (quiet : ∀ e ∈ history, e.clears = false) (bound : s.store.get? key = some stored) :
    ∃ made, m.state.refs = s.refs ++ made ∧ ∀ r ∈ made, r.call ≠ .async key := by
  generalize begun : Machine.start s script = m₀ at ran
  induction ran with
  | start =>
    subst begun
    exact ⟨[], by simp [Machine.start], by simp⟩
  | move before last ih =>
    subst begun
    have earlier := fun other among => quiet other (List.mem_append_left _ among)
    obtain ⟨early, refs, others⟩ := ih earlier
    obtain ⟨late, more, fresh⟩ := last.unmade (before.retains unused earlier bound)
    refine ⟨early ++ late, by rw [more, refs, List.append_assoc], ?_⟩
    intro r among
    rcases List.mem_append.mp among with old | new
    · exact others r old
    · exact fresh r new

theorem State.step_quiet (ran : s.step one = some (next, answer)) (keeps : one.clears = false) :
    ∃ history, Run (.start s [one]) history (.ended next [answer]) ∧ ∀ e ∈ history, e.clears = false := by
  obtain ⟨history, run⟩ := State.step_run ran
  have still : Still (.start s [one]) := ⟨by simp [Machine.start, Step.anyClears, keeps], by simp [Machine.start]⟩
  exact ⟨history, run, (run.still still).2⟩

theorem State.step_retains (ran : s.step one = some (next, answer)) (unused : s.busy = []) (keeps : one.clears = false)
    (bound : s.store.get? key = some stored) : next.store.get? key = some stored := by
  obtain ⟨history, run, quiet⟩ := State.step_quiet ran keeps
  exact run.retains unused quiet bound

theorem State.step_unmade (ran : s.step one = some (next, answer)) (unused : s.busy = []) (keeps : one.clears = false)
    (bound : s.store.get? key = some stored) :
    ∃ made, next.refs = s.refs ++ made ∧ ∀ r ∈ made, r.call ≠ .async key := by
  obtain ⟨history, run, quiet⟩ := State.step_quiet ran keeps
  exact run.unmade unused quiet bound

end DaoMapper.Cache
