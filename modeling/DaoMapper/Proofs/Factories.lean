import DaoMapper.Proofs.Seated

-- Calls of factories along a run of awaits, and the keys that hold references. A call
-- takes the next outcome of its reference; while a call is refused others follow, and
-- nothing follows the one that makes a coroutine.
namespace DaoMapper.Cache

def outcomesIn (n : Nat) (history : List Happening) : List Outcome := history.filterMap (Happening.outcome? n)

def Uncleared (history : List Happening) : Prop := ∀ one made, .stepped one made ∈ history → one.clears = false

variable {s : State} {m middle after : Moment} {history early late : List Happening} {e : Happening} {w : Waiter}
  {k n : Nat} {r : Reference} {queue : List Job} {key : Key} {stored : Stored}

theorem Joins.calls (joins : Joins k w ⟨s, queue, none⟩ e after) (there : s.refs[n]? = some r) :
    ∃ r', after.state.refs[n]? = some r' ∧ r'.call = r.call ∧
      (e.outcome? n = none ∧ r'.outcomes = r.outcomes ∨
        e.outcome? n = some r.nextOutcome ∧ r'.outcomes = r.called.outcomes) := by
  cases joins with
  | missing | told => exact ⟨r, there, rfl, .inl ⟨rfl, rfl⟩⟩
  | joined found =>
    rw [State.refs_setRef found]
    split
    · rename_i same
      subst same
      obtain rfl := Option.some.inj (there.symm.trans found)
      exact ⟨_, rfl, rfl, .inl ⟨rfl, rfl⟩⟩
    · exact ⟨r, there, rfl, .inl ⟨rfl, rfl⟩⟩
  | refused found idle refuses =>
    rw [State.refs_setRef (s := s.record _) found, Happening.outcome?]
    split
    · rename_i same
      subst same
      obtain rfl := Option.some.inj (there.symm.trans found)
      exact ⟨_, rfl, rfl, .inr ⟨by rw [refuses], rfl⟩⟩
    · exact ⟨r, there, rfl, .inl ⟨rfl, rfl⟩⟩
  | started found idle makes =>
    rw [State.refs_setRef (s := s.record _) found, Happening.outcome?]
    split
    · rename_i same
      subst same
      obtain rfl := Option.some.inj (there.symm.trans found)
      exact ⟨_, rfl, rfl, .inr ⟨by rw [makes], rfl⟩⟩
    · exact ⟨r, there, rfl, .inl ⟨rfl, rfl⟩⟩

-- The next outcome is taken, or the outcomes to come stay as they are.
theorem Turn.calls (turn : Turn m e after) (there : m.state.refs[n]? = some r) :
    ∃ r', after.state.refs[n]? = some r' ∧ r'.call = r.call ∧
      (e.outcome? n = none ∧ r'.outcomes = r.outcomes ∨
        e.outcome? n = some r.nextOutcome ∧ r'.outcomes = r.called.outcomes) := by
  cases turn with
  | looked joins | awaited joins => exact joins.calls there
  | begun | woken | asked => exact ⟨r, there, rfl, .inl ⟨rfl, rfl⟩⟩
  | ended found =>
    rw [State.refs_setRef found]
    split
    · rename_i same
      subst same
      obtain rfl := Option.some.inj (there.symm.trans found)
      exact ⟨_, rfl, rfl, .inl ⟨rfl, rfl⟩⟩
    · exact ⟨r, there, rfl, .inl ⟨rfl, rfl⟩⟩
  | stepped _ made =>
    refine ⟨r, ?_, rfl, .inl ⟨rfl, rfl⟩⟩
    rw [made, List.getElem?_append_left (List.getElem?_eq_some_iff.mp there).1, there]

theorem outcomesIn_snoc (n : Nat) (history : List Happening) (e : Happening) :
    outcomesIn n (history ++ [e]) = outcomesIn n history ++ (e.outcome? n).toList := by
  rw [outcomesIn, List.filterMap_append]
  cases h : e.outcome? n <;> simp [h, outcomesIn]

theorem Course.calls (course : Course m history after) (there : m.state.refs[n]? = some r) :
    ∃ count r', after.state.refs[n]? = some r' ∧ r'.call = r.call ∧ r'.outcomes = (Reference.called^[count] r).outcomes ∧
      outcomesIn n history = (List.range count).map fun i => (Reference.called^[i] r).nextOutcome := by
  induction course with
  | start => exact ⟨0, r, there, rfl, rfl, rfl⟩
  | turn _ last ih =>
    obtain ⟨count, before, found, call, outcomes, taken⟩ := ih
    obtain ⟨r', now, same, ⟨no_call, kept⟩ | ⟨called, dropped⟩⟩ := last.calls found
    · refine ⟨count, r', now, same.trans call, kept.trans outcomes, ?_⟩
      rw [outcomesIn_snoc, no_call, taken, Option.toList_none, List.append_nil]
    · have next : before.nextOutcome = (Reference.called^[count] r).nextOutcome := by
        rw [Reference.nextOutcome, outcomes, Reference.nextOutcome]
      refine ⟨count + 1, r', now, same.trans call, ?_, ?_⟩
      · rw [dropped, Function.iterate_succ_apply', Reference.called, outcomes, Reference.called]
      · rw [outcomesIn_snoc, called, taken, next, List.range_succ, List.map_append]
        rfl

theorem Turn.idle_called (turn : Turn m e after) (called : e.outcome? n = some outcome) :
    m.state.life? n = some .idle := by
  obtain ⟨old, new, rest, shift, -, -⟩ := turn.shift
  cases shift with
  | refused idle | started idle =>
    simp only [Happening.outcome?] at called
    split at called
    · rename_i same
      exact same ▸ idle
    · cases called
  | _ => cases called

theorem Recorded.isStarted (recorded : Recorded history m) (n : Nat) :
    m.state.isStarted n = true ↔ ∃ w c, .started n w c ∈ history := by
  rw [recorded.started n, State.isStarted, State.life?]
  cases there : m.state.refs[n]? with
  | none => simp
  | some r => cases phase : r.phase <;> simp [phase, Phase.started, Phase.life]

theorem Course.outcomes (course : Course (.rest s) history m) (unawaited : Unawaited s) (n : Nat) :
    ∃ (refusals : List String) (made : Option Coroutine),
      outcomesIn n history = refusals.map .refuse ++ (made.map Outcome.make).toList ∧
        m.state.isStarted n = made.isSome := by
  induction course with
  | start =>
    have idle : (Moment.rest s).state.isStarted n = false := by
      simpa using (Recorded.isStarted (.start unawaited) n).not
    exact ⟨[], none, rfl, idle⟩
  | @turn history m e after before last ih =>
    obtain ⟨refusals, made, shape, started⟩ := ih
    have earlier := before.recorded unawaited
    have now := last.recorded earlier
    rw [outcomesIn_snoc, shape]
    cases called : e.outcome? n with
    | none =>
      have none_new : ∀ w c, .started n w c ≠ e := by
        rintro w c rfl
        simp [Happening.outcome?] at called
      refine ⟨refusals, made, by simp, ?_⟩
      rw [← started, Bool.eq_iff_iff, now.isStarted, earlier.isStarted]
      simp [none_new]
    | some outcome =>
      -- A factory that is called was idle, so no call before has made a coroutine.
      have idle := last.idle_called called
      have unstarted : made = none := by
        have never := (earlier.isStarted n).not.mpr (by rw [earlier.started, idle]; simp)
        rwa [started, Option.not_isSome_iff_eq_none] at never
      subst unstarted
      cases e with
      | refused k w message =>
        obtain ⟨rfl, rfl⟩ : k = n ∧ Outcome.refuse message = outcome := by simpa [Happening.outcome?] using called
        refine ⟨refusals ++ [message], none, by simp, ?_⟩
        rw [Option.isSome_none, ← Bool.not_eq_true, now.isStarted, now.started, last.life idle]
        simp [Happening.onLife]
      | started k w c =>
        obtain ⟨rfl, rfl⟩ : k = n ∧ Outcome.make c = outcome := by simpa [Happening.outcome?] using called
        exact ⟨refusals, some c, by simp, (now.isStarted k).mpr ⟨w, c, by simp⟩⟩
      | _ => cases called

theorem Turn.unused (turn : Turn m e after) (unused : m.state.busy = []) : after.state.busy = [] := by
  cases turn with
  | looked joins | awaited joins => rw [joins.still.2.1, unused]
  | stepped ran => exact State.step_unused ran unused
  | _ => exact unused

theorem Course.unused (course : Course m history after) (unused : m.state.busy = []) : after.state.busy = [] := by
  induction course with
  | start => exact unused
  | turn _ last ih => exact last.unused ih

theorem Turn.retains (turn : Turn m e after) (unused : m.state.busy = []) (keeps : Uncleared [e])
    (bound : m.state.store.get? key = some stored) : after.state.store.get? key = some stored := by
  cases turn with
  | looked joins | awaited joins => rw [joins.still.1, bound]
  | stepped ran => exact State.step_retains ran unused (keeps _ _ (List.mem_singleton_self _)) bound
  | _ => exact bound

theorem Course.retains (course : Course m history after) (unused : m.state.busy = []) (keeps : Uncleared history)
    (bound : m.state.store.get? key = some stored) : after.state.store.get? key = some stored := by
  induction course with
  | start => exact bound
  | turn early last ih =>
    refine last.retains (early.unused unused) ?_ (ih ?_)
    · exact fun one made among => keeps one made (List.mem_append_right _ among)
    · exact fun one made among => keeps one made (List.mem_append_left _ among)

theorem Turn.unmade (turn : Turn m (.stepped one made) after) (unused : m.state.busy = []) (keeps : one.clears = false)
    (bound : m.state.store.get? key = some stored) : ∀ r ∈ made, r.call ≠ .async key := by
  cases turn with
  | stepped ran refs =>
    obtain ⟨fresh, grown, others⟩ := State.step_unmade ran unused keeps bound
    rwa [← List.append_cancel_left (grown.symm.trans refs)]
  | looked joins | awaited joins => cases joins

-- Until then no other comes into being for that key, so that only the factory that was
-- passed with the first one can be called.
theorem Course.unmade (course : Course m history after) (unused : m.state.busy = []) (keeps : Uncleared history)
    (bound : m.state.store.get? key = some stored) (stepped : .stepped one made ∈ history) :
    ∀ r ∈ made, r.call ≠ .async key := by
  induction course with
  | start => cases stepped
  | @turn history _ e _ early last ih =>
    have before : Uncleared history := fun one made among => keeps one made (List.mem_append_left _ among)
    rcases List.mem_append.mp stepped with earlier | newest
    · exact ih before earlier
    · obtain rfl := List.mem_singleton.mp newest
      have quiet := keeps one made (List.mem_append_right _ (List.mem_singleton_self _))
      exact last.unmade (early.unused unused) quiet (early.retains unused before bound)

end DaoMapper.Cache
