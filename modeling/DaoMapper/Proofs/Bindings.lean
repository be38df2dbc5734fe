import DaoMapper.Proofs.Nesting
import DaoMapper.Proofs.Store
import Mathlib.Data.List.DropRight

-- What the history of a run says about the cache: which keys have been bound since it
-- was last cleared, and which factories are under way.
namespace DaoMapper.Cache

namespace Event

def clears : Event → Bool
  | .cleared => true
  | _ => false

def binding? : Event → Option (Key × Stored)
  | .made key value => some (key, .value value)
  | .referred key n => some (key, .ref n)
  | _ => none

def call? : Event → Option Call
  | .called key => some (.compute key)
  | _ => none

-- Innermost first, each with whether the cache was cleared since it was called.
def onFactories (factories : List (Key × Bool)) : Event → List (Key × Bool)
  | .called key => (key, false) :: factories
  | .made _ _ | .failed _ _ => factories.tail
  | .cleared => factories.map fun f => (f.1, true)
  | _ => factories

end Event

def sinceClear (history : List Event) : List Event := history.rtakeWhile fun e => !e.clears

def bindings (history : List Event) : List (Key × Stored) := (sinceClear history).filterMap Event.binding?

def calledKeys (history : List Event) : List Call := history.filterMap Event.call?

def factories (history : List Event) : List (Key × Bool) := history.foldl Event.onFactories []

def guarded (factories : List (Key × Bool)) : List Key := (factories.filter (!·.2)).map (·.1)

structure State.Fresh (s : State) : Prop where
  empty : s.store = .empty
  idle : s.busy = []

structure Guarded (history : List Event) (m : Machine) : Prop where
  stack : m.frames.map (·.key) = (factories history).map (·.1)
  -- A clear is seen by all factories under way, so those that saw none are the inner ones.
  inner : (factories history).Pairwise fun inside outside => inside.2 = true → outside.2 = true
  busy : m.state.busy = guarded (factories history)
  distinct : m.state.busy.Nodup
  unbound : ∀ key ∈ m.state.busy, m.state.store.get? key = none

variable {first s next : State} {m after : Machine} {frames : List Frame} {answered : List Answer} {todo : List Step}
  {history : List Event} {e : Event} {key : Key}

theorem sinceClear_snoc (history : List Event) (e : Event) :
    sinceClear (history ++ [e]) = if e.clears then [] else sinceClear history ++ [e] := by
  unfold sinceClear
  rw [List.rtakeWhile_concat]
  cases e.clears <;> simp

theorem bindings_snoc (history : List Event) (e : Event) :
    bindings (history ++ [e]) = if e.clears then [] else bindings history ++ e.binding?.toList := by
  unfold bindings
  rw [sinceClear_snoc]
  cases clears : e.clears
  · cases bound : e.binding? <;> simp [bound]
  · simp

theorem bindings_append (history : List Event) {later : List Event} (quiet : ∀ e ∈ later, e.clears = false) :
    bindings (history ++ later) = bindings history ++ bindings later := by
  induction later using List.reverseRecOn with
  | nil => simp [bindings, sinceClear]
  | append_singleton later e ih =>
    have still := quiet e (by simp)
    rw [← List.append_assoc, bindings_snoc, bindings_snoc, ih fun e among => quiet e (by simp [among])]
    simp [still]

theorem calledKeys_snoc (history : List Event) (e : Event) :
    calledKeys (history ++ [e]) = calledKeys history ++ e.call?.toList := by
  unfold calledKeys
  cases called : e.call? <;> simp [called]

theorem factories_snoc (history : List Event) (e : Event) :
    factories (history ++ [e]) = e.onFactories (factories history) := by
  simp [factories]

theorem guarded_cons (f : Key × Bool) (rest : List (Key × Bool)) :
    guarded (f :: rest) = if f.2 then guarded rest else f.1 :: guarded rest := by
  obtain ⟨key, seen⟩ := f
  cases seen <;> rfl

theorem guarded_seen {factories : List (Key × Bool)} (seen : ∀ f ∈ factories, f.2 = true) : guarded factories = [] := by
  simp only [guarded, List.map_eq_nil_iff, List.filter_eq_nil_iff]
  intro f under
  simp [seen f under]

theorem guarded_tail {f : Key × Bool} {rest : List (Key × Bool)}
    (inner : (f :: rest).Pairwise fun inside outside => inside.2 = true → outside.2 = true)
    (distinct : (guarded (f :: rest)).Nodup) : (guarded (f :: rest)).filter (· ≠ f.1) = guarded rest := by
  obtain ⟨key, seen⟩ := f
  rw [guarded_cons] at distinct ⊢
  cases seen with
  | true =>
    have none_guarded : guarded rest = [] :=
      guarded_seen fun g under => (List.pairwise_cons.mp inner).1 g under rfl
    simp [none_guarded]
  | false =>
    simp only [Bool.false_eq_true, if_false, List.nodup_cons] at distinct
    simp only [Bool.false_eq_true, if_false, ne_eq, not_true_eq_false, decide_false, List.filter_cons_of_neg,
      not_false_eq_true, List.filter_eq_self, decide_eq_true_eq]
    rintro other guards rfl
    exact distinct.1 guards

theorem State.step_outside (outside : one.outside = true) (ran : s.step one = some (next, answer)) :
    next.store = s.store ∧ next.busy = s.busy ∧ next.calls = s.calls := by
  cases one with
  | newRef | started | calls =>
    simp only [State.step, Option.some.injEq, Prod.mk.injEq] at ran
    obtain ⟨rfl, -⟩ := ran
    exact ⟨rfl, rfl, rfl⟩
  | _ => cases outside

-- An event says all that a move does to the store and to the calls.
theorem Move.store_exact (move : Move m e after) : after.state.store =
    if e.clears then .empty else e.binding?.elim m.state.store fun b => m.state.store.put b.1 b.2 := by
  cases move with
  | aside outside ran => exact (State.step_outside outside ran).1
  | _ => rfl

theorem Move.calls_exact (move : Move m e after) : after.state.calls = m.state.calls ++ e.call?.toList := by
  cases move with
  | aside outside ran => simpa [Event.call?] using (State.step_outside outside ran).2.2
  | _ => simp [Event.call?]

theorem Run.calls_exact (ran : Run m history after) : after.state.calls = m.state.calls ++ calledKeys history := by
  induction ran with
  | start => simp [calledKeys]
  | move _ last ih => rw [last.calls_exact, ih, calledKeys_snoc, List.append_assoc]

theorem Guarded.start (fresh : first.Fresh) (script : List Step) : Guarded [] (.start first script) where
  stack := rfl
  inner := .nil
  busy := fresh.idle
  distinct := by simp [Machine.start, fresh.idle]
  unbound := by simp [Machine.start, fresh.idle]

theorem Guarded.beside (held : Guarded history m) (under : e.onFactories (factories history) = factories history)
    (frames : after.frames = m.frames) (busy : after.state.busy = m.state.busy)
    (unbound : ∀ key ∈ m.state.busy, after.state.store.get? key = none) : Guarded (history ++ [e]) after where
  stack := by rw [frames, factories_snoc, under, held.stack]
  inner := by
    rw [factories_snoc, under]
    exact held.inner
  busy := by rw [busy, factories_snoc, under, held.busy]
  distinct := busy ▸ held.distinct
  unbound := by
    rw [busy]
    exact unbound

theorem Guarded.called (held : Guarded history ⟨s, frames, answered, todo⟩) (absent : s.store.get? key = none)
    (free : key ∉ s.busy) :
    Guarded (history ++ [.called key]) ⟨s.enter key, ⟨key, how, outer, rest⟩ :: frames, [], steps⟩ where
  stack := by simpa [factories_snoc, Event.onFactories] using held.stack
  inner := by simpa [factories_snoc, Event.onFactories] using held.inner
  busy := by simpa [factories_snoc, Event.onFactories, guarded_cons] using congrArg (key :: ·) held.busy
  distinct := List.nodup_cons.mpr ⟨free, held.distinct⟩
  unbound := by
    rintro other among
    rcases List.mem_cons.mp among with rfl | among
    · exact absent
    · exact held.unbound _ among

theorem Guarded.innermost (held : Guarded history ⟨s, ⟨key, how, outer, rest⟩ :: frames, answered, todo⟩) :
    ∃ seen under, factories history = (key, seen) :: under ∧ frames.map (·.key) = under.map (·.1) := by
  have stack := held.stack
  cases under : factories history with
  | nil => simp [under] at stack
  | cons f outside =>
    obtain ⟨innermost, seen⟩ := f
    simp only [under, List.map_cons, List.cons.injEq] at stack
    obtain ⟨rfl, stack⟩ := stack
    exact ⟨seen, outside, rfl, stack⟩

theorem Guarded.unbound_or_seen (held : Guarded history ⟨s, ⟨key, how, outer, rest⟩ :: frames, answered, todo⟩) :
    s.store.get? key = none ∨ ∃ under, factories history = (key, true) :: under := by
  obtain ⟨seen, under, at_factories, -⟩ := held.innermost
  cases seen with
  | true => exact .inr ⟨under, at_factories⟩
  | false =>
    refine .inl (held.unbound key ?_)
    rw [held.busy, at_factories, guarded_cons]
    exact List.mem_cons_self ..

theorem Guarded.ended (held : Guarded history ⟨s, ⟨key, how, outer, rest⟩ :: frames, answered, todo⟩)
    (ends : e.onFactories (factories history) = (factories history).tail)
    (busy : next.busy = s.busy.filter (· ≠ key))
    (unbound : ∀ other ≠ key, next.store.get? other = s.store.get? other) :
    Guarded (history ++ [e]) ⟨next, frames, answers, rest⟩ := by
  obtain ⟨seen, under, at_factories, stack⟩ := held.innermost
  have inner := held.inner
  have guards := held.busy
  have distinct := held.distinct
  simp only [at_factories] at inner guards
  rw [guards] at distinct
  exact {
    stack := by rw [factories_snoc, ends, at_factories, List.tail_cons, stack]
    inner := by
      rw [factories_snoc, ends, at_factories]
      exact inner.of_cons
    busy := by
      rw [busy, guards, factories_snoc, ends, at_factories]
      exact guarded_tail inner distinct
    distinct := busy ▸ held.distinct.filter _
    unbound := by
      intro other among
      simp only [busy, List.mem_filter, decide_eq_true_eq] at among
      exact (unbound other among.2).trans (held.unbound other among.1) }

theorem Guarded.cleared (held : Guarded history ⟨s, frames, answered, todo⟩) :
    Guarded (history ++ [.cleared]) ⟨s.clear, frames, answers, rest⟩ where
  stack := by simpa [factories_snoc, Event.onFactories, Function.comp_def] using held.stack
  inner := by simp [factories_snoc, Event.onFactories, List.pairwise_map, List.pairwise_of_forall]
  busy := by
    rw [factories_snoc, guarded_seen (by simp [Event.onFactories])]
    rfl
  distinct := .nil
  unbound := by simp

theorem Move.guarded (move : Move m e after) (held : Guarded history m) : Guarded (history ++ [e]) after := by
  cases move with
  | called absent free => exact held.called absent free
  | made => exact held.ended rfl rfl fun other different => Store.get?_put_other _ _ different
  | failed => exact held.ended rfl rfl fun _ _ => rfl
  | cleared => exact held.cleared
  | referred absent free =>
    refine held.beside rfl rfl (State.refer_busy free _) fun other among => ?_
    refine (Store.get?_put_other _ _ ?_).trans (held.unbound other among)
    rintro rfl
    exact free among
  | aside outside ran =>
    obtain ⟨store, busy, -⟩ := State.step_outside outside ran
    exact held.beside rfl rfl busy (store ▸ held.unbound)
  | found | foundReference | got | contained | counted => exact held.beside rfl rfl rfl held.unbound

theorem Run.guarded (ran : Run (.start first script) history m) (fresh : first.Fresh) : Guarded history m := by
  generalize begun : Machine.start first script = m₀ at ran
  induction ran with
  | start => exact begun ▸ .start fresh script
  | move _ last ih => exact last.guarded ih

end DaoMapper.Cache
