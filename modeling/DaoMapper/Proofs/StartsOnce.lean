import DaoMapper.Proofs.Gathering

-- A lazy reference starts at most one coroutine, and whoever awaits it is told how that
-- one ended.
namespace DaoMapper.Cache

def Happening.await? : Happening → Option Nat
  | .missing n _ | .refused n _ _ | .started n _ _ | .joined n _ | .told n _ _ => some n
  | _ => none

structure StartsOnce (history : List Happening) (m : Moment) : Prop where
  -- The factory is called until it makes a coroutine: some calls are refused, and then
  -- there is at most one more. From then on the reference counts as started.
  calls : ∀ n, ∃ (refusals : List String) (made : Option Coroutine),
    outcomesIn n history = refusals.map .refuse ++ (made.map Outcome.make).toList ∧ m.state.isStarted n = made.isSome
  -- Whoever is told an ending is told the one of the coroutine, which has come to it by
  -- what its own awaits were told.
  shared : ∀ n w ending, .told n w ending ∈ history → .ended n ending ∈ history
  single : ∀ n ending other, .ended n ending ∈ history → .ended n other ∈ history → ending = other
  reached : ∀ n ending, .ended n ending ∈ history →
    ∃ w c, .started n w c ∈ history ∧ c.Leads (Heard history) (.done ending)
  quiet : ∀ e after n, Turn m e after → m.state.isStarted n = true → e.outcome? n = none
  waited : ∀ e after n, Turn m e after → e.await? = some n → m.state.isStarted n = true →
    ∃ w, e = .joined n w ∨ ∃ ending, e = .told n w ending
  retried : ∀ e after n r, Turn m e after → e.await? = some n → m.state.refs[n]? = some r →
    m.state.isStarted n = false → e.outcome? n = some r.nextOutcome
  -- A refusal is told to the one who called and leaves the reference as it was: all
  -- others stand where they stood.
  alone : ∀ n w message after, Turn m (.refused n w message) after → after.state.isStarted n = false ∧
    ∃ others, m.posts = w.before n ::ₘ others ∧ after.posts = goingPosts (w.resumed (.error message)) + others
  -- Nothing ready and no circle: all that started has ended, all who asked are answered.
  settled : m.queue = [] → m.going = none → NoCircle history →
    (∀ n w c, .started n w c ∈ history → ∃ ending, .ended n ending ∈ history) ∧
      ∀ i n, closed i n history = opened i n history
  -- A key that is bound stays so until the cache is cleared; nothing else comes into
  -- being for it, and whoever passes a factory gets what is there and leaves all as it is.
  stored : ∀ key stored more after, m.state.store.get? key = some stored → Course m more after → Uncleared more →
    after.state.store.get? key = some stored ∧
      (∀ one made, .stepped one made ∈ more → ∀ r ∈ made, r.call ≠ .async key) ∧
      ∀ outcomes, after.state.step (.computeAsync key outcomes) =
        some (after.state, .reference stored (after.state.startedOf stored) (some after.state.store.size))
  -- Awaiting several at once is such a run from rest to rest, and without a circle each
  -- result is how the await ended.
  gathered : ∀ wanted, m.queue = [] → m.going = none → ∃ more,
    Course m (asksFor wanted ++ more) (.rest (m.state.gather wanted).1) ∧ Inside more ∧
      (NoCircle (history ++ (asksFor wanted ++ more)) → ∀ i n, wanted[i]? = some n →
        ∃ ending, (m.state.gather wanted).2[i]? = some (some ending) ∧ ∃ e ∈ more, e.ends? = some (n, .slot i, ending))

variable {s : State} {m after : Moment} {history : List Happening} {e : Happening} {w : Waiter} {n : Nat} {r : Reference}

theorem Turn.retried (turn : Turn m e after) (recorded : Recorded history m) (awaits : e.await? = some n)
    (there : m.state.refs[n]? = some r) (idle : m.state.isStarted n = false) : e.outcome? n = some r.nextOutcome := by
  have unstarted : ¬ (m.state.life? n = some .running ∨ ∃ ending, m.state.life? n = some (.done ending)) := by
    rw [← recorded.started n, ← recorded.isStarted n, idle]
    exact Bool.false_ne_true
  have called : e.outcome? n ≠ none := by
    intro never
    obtain ⟨old, new, rest, shift, whole, -⟩ := turn.shift
    cases shift with
    | missing absent =>
      obtain rfl := Option.some.inj awaits
      simp [State.life?, there] at absent
    | refused | started =>
      obtain rfl := Option.some.inj awaits
      simp [Happening.outcome?] at never
    | joined running =>
      obtain rfl := Option.some.inj awaits
      exact unstarted (.inl running)
    | told done =>
      obtain rfl := Option.some.inj awaits
      exact unstarted (.inr ⟨_, done⟩)
    | @woken k w ending =>
      obtain rfl := Option.some.inj awaits
      exact unstarted (.inr ⟨ending, recorded.seated.woken w k ending (by simp [whole])⟩)
    | _ => cases awaits
  obtain ⟨r', -, -, ⟨never, -⟩ | ⟨takes, -⟩⟩ := turn.calls there
  · exact absurd never called
  · exact takes

theorem Turn.waited (turn : Turn m e after) (recorded : Recorded history m) (awaits : e.await? = some n)
    (started : m.state.isStarted n = true) : ∃ w, e = .joined n w ∨ ∃ ending, e = .told n w ending := by
  rw [recorded.isStarted, recorded.started] at started
  obtain ⟨old, new, rest, shift, whole, -⟩ := turn.shift
  cases shift with
  | missing absent | refused absent | started absent =>
    obtain rfl := Option.some.inj awaits
    rw [absent] at started
    simp at started
  | joined =>
    obtain rfl := Option.some.inj awaits
    exact ⟨_, .inl rfl⟩
  | told | woken =>
    obtain rfl := Option.some.inj awaits
    exact ⟨_, .inr ⟨_, rfl⟩⟩
  | _ => cases awaits

theorem Turn.alone (turn : Turn m (.refused n w message) after) (recorded : Recorded history m) :
    after.state.isStarted n = false ∧
      ∃ others, m.posts = w.before n ::ₘ others ∧ after.posts = goingPosts (w.resumed (.error message)) + others := by
  have idle := turn.idle_called (n := n) (if_pos rfl)
  obtain ⟨old, new, rest, shift, whole, now⟩ := turn.shift
  refine ⟨?_, ?_⟩
  · have later := turn.recorded recorded
    rw [← Bool.not_eq_true, later.isStarted, later.started, turn.life idle]
    simp [Happening.onLife]
  · cases shift
    exact ⟨rest, by rw [whole, Multiset.singleton_add], now⟩

theorem starts_once (unawaited : Unawaited s) (course : Course (.rest s) history m) : StartsOnce history m := by
  have recorded := course.recorded unawaited
  have unused := course.unused unawaited.unused
  constructor
  case calls => exact course.outcomes unawaited
  case shared =>
    intro n w ending told
    exact (recorded.ended n ending).mpr (recorded.told n w ending told)
  case single =>
    intro n ending other ended also
    have same := ((recorded.ended n ending).mp ended).symm.trans ((recorded.ended n other).mp also)
    exact Life.done.inj (Option.some.inj same)
  case reached => exact (course.traced unawaited).through
  case quiet =>
    intro e after n turn started
    cases called : e.outcome? n with
    | none => rfl
    | some outcome =>
      have idle := turn.idle_called called
      rw [recorded.isStarted, recorded.started, idle] at started
      simp at started
  case waited =>
    intro e after n turn awaits started
    exact turn.waited recorded awaits started
  case retried =>
    intro e after n r turn awaits there idle
    exact turn.retried recorded awaits there idle
  case alone =>
    intro n w message after turn
    exact turn.alone recorded
  case settled => exact course.settled unawaited
  case stored =>
    intro key stored more after bound later keeps
    have stays := later.retains unused keeps bound
    refine ⟨stays, ?_, fun outcomes => State.step_foundReference stays outcomes⟩
    intro one made stepped
    exact later.unmade unused keeps bound stepped
  case gathered =>
    intro wanted ready idle
    exact course.gathered unawaited ready idle wanted

-- A factory that is not ready at first: a first await of its key is refused, of the next
-- two one starts the coroutine and the other joins it.
def late : List Outcome := [.refuse "too early", .give .null]

def lateRun : List Happening :=
  [.stepped (.computeAsync (.name "late") late) [.new (.async (.name "late")) late],
    .asked 0 0, .refused 0 (.slot 0) "too early", .asked 0 0, .asked 1 0,
    .started 0 (.slot 0) (.done (.ok .null)), .joined 0 (.slot 1), .begun 0, .ended 0 (.ok .null),
    .told 0 (.slot 0) (.ok .null), .told 0 (.slot 1) (.ok .null)]

def lateEnd : State :=
  { State.initial.refer (.name "late") late with
    refs := [⟨.async (.name "late"), [.give .null], .done (.ok .null)⟩]
    calls := [.async (.name "late"), .async (.name "late")] }

theorem late_started_once : Unawaited .initial ∧ Course (.rest .initial) lateRun (.rest lateEnd) ∧
    StartsOnce lateRun (.rest lateEnd) ∧ outcomesIn 0 lateRun = late := by
  have unawaited : Unawaited .initial := ⟨by simp [State.initial], rfl⟩
  have stored : State.step .initial (.computeAsync (.name "late") late) =
      some (State.initial.refer (.name "late") late, .reference (.ref 0) false (some 1)) :=
    State.step_referred rfl (by simp [State.initial]) late
  have course : Course (.rest .initial) lateRun (.rest lateEnd) := by
    refine .cons (.stepped stored rfl) ?_
    refine .cons .asked (.cons (.looked_first (.refused rfl rfl rfl)) ?_)
    refine .cons .asked (.cons .asked ?_)
    refine .cons (.looked_first (.started rfl rfl rfl)) (.cons (.looked_first (.joined rfl rfl)) ?_)
    refine .cons .begun_first (.cons (.ended rfl) ?_)
    exact .cons .woken_first (.cons .woken_first .start)
  exact ⟨unawaited, course, starts_once unawaited course, rfl⟩

end DaoMapper.Cache
