import DaoMapper.Proofs.WriteOnce

-- Runs in which factories may clear the cache they are called from. A factory stores
-- what it returns whatever it finds, so the last one to return decides.
namespace DaoMapper.Cache

def Event.result? : Event → Option (Key × Stored)
  | .made key value => some (key, .value value)
  | .referred key n => some (key, .ref n)
  | .found key stored => some (key, stored)
  | _ => none

def results (history : List Event) : List (Key × Stored) := (sinceClear history).filterMap Event.result?

def lastBound (history : List Event) (key : Key) : Option Stored :=
  ((bindings history).reverse.find? fun b => b.1 = key).map (·.2)

-- Between two clears a key has one instance, and it is there from its first call on.
structure OneInstance (first : State) (script : List Step) : Prop where
  same : ∀ history m, Run (.start first script) history m →
    ∀ key a b, (key, a) ∈ results history → (key, b) ∈ results history → a = b
  given : ∀ history m, Run (.start first script) history m →
    ∀ key a, (key, a) ∈ results history → m.state.step (.get key) = some (m.state, .got (some a))
  stays : ∀ history m e after, Run (.start first script) history m → Move m e after → e.clears = false →
    ∀ key a, m.state.store.get? key = some a → after.state.store.get? key = some a

def Overwrites (m : Machine) (e : Event) : Prop :=
  ∃ key value stored, e = .made key value ∧ m.state.store.get? key = some stored ∧ stored ≠ .value value

variable {first s next : State} {m after : Machine} {script : List Step} {history : List Event} {e : Event} {key : Key}

theorem results_snoc (history : List Event) (e : Event) :
    results (history ++ [e]) = if e.clears then [] else results history ++ e.result?.toList := by
  unfold results
  rw [sinceClear_snoc]
  cases clears : e.clears
  · cases given : e.result? <;> simp [given]
  · simp

theorem State.step_get (s : State) (key : Key) : s.step (.get key) = some (s, .got (s.store.get? key)) := rfl

theorem Run.last_bound (ran : Run (.start first script) history m) (fresh : first.Fresh) (key : Key) :
    m.state.store.get? key = lastBound history key := by
  generalize begun : Machine.start first script = m₀ at ran
  induction ran with
  | start =>
    subst begun
    simp [Machine.start, fresh.empty, lastBound, bindings, sinceClear]
  | @move _ _ e _ _ last ih =>
    rw [last.store_exact, lastBound, bindings_snoc]
    cases e.clears with
    | true => rfl
    | false =>
      cases e.binding? with
      | none => simpa [lastBound] using ih
      | some b =>
        obtain ⟨bound, stored⟩ := b
        by_cases same : bound = key
        · subst same
          simp
        · simpa [Store.get?_put_other _ _ (Ne.symm same), same, lastBound] using ih

theorem Move.result_bound (move : Move m e after) (given : e.result? = some (key, stored)) :
    after.state.store.get? key = some stored := by
  cases move with
  | made | referred =>
    simp only [Event.result?, Option.some.injEq, Prod.mk.injEq] at given
    obtain ⟨rfl, rfl⟩ := given
    exact Store.get?_put_same _ _ _
  | found there | foundReference there =>
    simp only [Event.result?, Option.some.injEq, Prod.mk.injEq] at given
    obtain ⟨rfl, rfl⟩ := given
    exact there
  | _ => cases given

theorem Move.stays (move : Move m e after) (keeps : ¬ Overwrites m e) (still : e.clears = false)
    (bound : m.state.store.get? key = some stored) : after.state.store.get? key = some stored := by
  rw [move.store_exact, still, if_neg Bool.false_ne_true]
  cases binds : e.binding? with
  | none => exact bound
  | some b =>
    obtain ⟨other, new⟩ := b
    rw [Option.elim_some]
    by_cases different : key = other
    · subst different
      rw [Store.get?_put_same]
      cases move with
      | made =>
        simp only [Event.binding?, Option.some.injEq, Prod.mk.injEq] at binds
        obtain ⟨rfl, rfl⟩ := binds
        by_contra changes
        exact keeps ⟨_, _, stored, rfl, bound, fun same => changes (by rw [same])⟩
      | referred absent =>
        simp only [Event.binding?, Option.some.injEq, Prod.mk.injEq] at binds
        obtain ⟨rfl, -⟩ := binds
        rw [absent] at bound
        cases bound
      | _ => cases binds
    · exact (Store.get?_put_other _ _ different).trans bound

theorem Run.results_bound (ran : Run (.start first script) history m)
    (keeps : ∀ history m e after, Run (.start first script) history m → Move m e after → ¬ Overwrites m e) :
    ∀ key a, (key, a) ∈ results history → m.state.store.get? key = some a := by
  generalize begun : Machine.start first script = m₀ at ran
  induction ran with
  | start => simp [results, sinceClear]
  | @move _ _ e _ before last ih =>
    subst begun
    intro key a given
    rw [results_snoc] at given
    cases still : e.clears with
    | true => simp [still] at given
    | false =>
      rw [still, if_neg Bool.false_ne_true, List.mem_append, Option.mem_toList] at given
      rcases given with earlier | newest
      · exact last.stays (keeps _ _ _ _ before last) still (ih key a earlier)
      · exact last.result_bound newest

theorem oneInstance_iff : OneInstance first script ↔
    ∀ history m e after, Run (.start first script) history m → Move m e after → ¬ Overwrites m e := by
  constructor
  · rintro one history m e after ran move ⟨key, value, stored, rfl, bound, different⟩
    have stays := one.stays history m _ after ran move rfl key stored bound
    rw [move.result_bound rfl, Option.some.injEq] at stays
    exact different stays.symm
  · intro keeps
    exact {
      same := by
        intro history m ran key a b earlier later
        have bound := ran.results_bound keeps key a earlier
        rw [ran.results_bound keeps key b later, Option.some.injEq] at bound
        exact bound.symm
      given := by
        intro history m ran key a given
        rw [State.step_get, ran.results_bound keeps key a given]
      stays := fun history m e after ran move still key a => move.stays (keeps history m e after ran move) still }

-- It takes a clear from inside of a factory to have its key bound before it returns.
theorem Overwrites.seen (overwrites : Overwrites m e) (move : Move m e after) (guarded : Guarded history m) :
    ∃ key under, factories history = (key, true) :: under := by
  obtain ⟨key, value, stored, rfl, bound, -⟩ := overwrites
  cases move
  rcases guarded.unbound_or_seen with unbound | ⟨under, at_factories⟩
  · rw [unbound] at bound
    cases bound
  · exact ⟨key, under, at_factories⟩

theorem one_instance_exact (fresh : first.Fresh) (script : List Step) :
    (∀ history m key, Run (.start first script) history m →
      m.state.step (.get key) = some (m.state, .got (lastBound history key))) ∧
    (OneInstance first script ↔
      ∀ history m e after, Run (.start first script) history m → Move m e after → ¬ Overwrites m e) ∧
    (∀ history m e after, Run (.start first script) history m → Move m e after → Overwrites m e →
      ∃ key under, factories history = (key, true) :: under) ∧
    ((∀ one ∈ script, one.calm = true) → OneInstance first script) := by
  refine ⟨fun history m key ran => ?_, oneInstance_iff, fun history m e after ran move overwrites => ?_, fun calm => ?_⟩
  · rw [State.step_get, ran.last_bound fresh key]
  · exact overwrites.seen move (ran.guarded fresh)
  · rw [oneInstance_iff]
    rintro history m e after ran move ⟨key, value, stored, rfl, bound, -⟩
    obtain ⟨guarded, kept⟩ := ran.kept (.start fresh script) (.start fresh calm)
    rw [move.binds_new guarded kept rfl] at bound
    cases bound

def takeover : List Step :=
  [.compute (.name "k") [.clear, .compute (.name "k") [] (.ok (.text "inner")), .get (.name "k")] (.ok (.text "outer")),
    .get (.name "k")]

theorem lapse_one_instance : State.initial.Fresh ∧ OneInstance .initial lapse :=
  ⟨⟨rfl, rfl⟩, (one_instance_exact ⟨rfl, rfl⟩ lapse).2.2.2 (by decide)⟩

-- The later binding replaces what the earlier call has been given.
theorem takeover_replaced : ¬ OneInstance .initial takeover ∧
    (State.initial.steps takeover).map (·.2) = some [
      .computed (.ok (.value (.text "outer"))) true
        [.size 0, .computed (.ok (.value (.text "inner"))) true [] 1, .got (some (.value (.text "inner")))] 1,
      .got (some (.value (.text "outer")))] := by
  refine ⟨fun one => ?_, rfl⟩
  have ran := (.start : Run (.start .initial takeover) [] _) |>.move (.called rfl (by decide)) |>.move .cleared
    |>.move (.called rfl (by decide)) |>.move .made |>.move .got
  have stays := one.stays _ _ _ _ ran .made rfl (.name "k") (.value (.text "inner")) rfl
  have replaced : some (Stored.value (.text "outer")) = some (.value (.text "inner")) := stays
  simp at replaced

end DaoMapper.Cache
