import DaoMapper.Cache.Run

-- Runs of awaits in one loop, one move at a time, and in any order: whatever is ready
-- may go on next, and at any time somebody, be it the coroutine that is going on, may
-- have a reference awaited beside it or take a step on the cache. The loop itself, which
-- takes what is ready in order, is one such run.
namespace DaoMapper.Cache

-- `going` is the coroutine that goes on, with what is left of it.
structure Moment where
  state : State
  queue : List Job
  going : Option (Nat × Coroutine)

-- A factory refuses, a coroutine starts, somebody waits, or is told an ending.
inductive Happening where
  | asked (slot ref : Nat)
  | stepped (one : Step) (made : List Reference)
  | missing (ref : Nat) (waiter : Waiter)
  | refused (ref : Nat) (waiter : Waiter) (message : String)
  | started (ref : Nat) (waiter : Waiter) (coroutine : Coroutine)
  | joined (ref : Nat) (waiter : Waiter)
  | told (ref : Nat) (waiter : Waiter) (ending : Ending)
  | begun (ref : Nat)
  | ended (ref : Nat) (ending : Ending)

namespace State

def setRef (s : State) (n : Nat) (r : Reference) : State := { s with refs := s.refs.set n r }

def record (s : State) (call : Call) : State := { s with calls := s.calls ++ [call] }

end State

def Waiter.resumed : Waiter → Ending → Option (Nat × Coroutine)
  | .coroutine n next, ending => some (n, next ending)
  | .slot _, _ => none

def noReference : Ending := .error "no such reference"

inductive Joins (n : Nat) (w : Waiter) : Moment → Happening → Moment → Prop where
  | missing (absent : s.refs[n]? = none) :
      Joins n w ⟨s, queue, none⟩ (.missing n w) ⟨s, queue, w.resumed noReference⟩
  | told (there : s.refs[n]? = some r) (done : r.phase = .done ending) :
      Joins n w ⟨s, queue, none⟩ (.told n w ending) ⟨s, queue, w.resumed ending⟩
  | joined (there : s.refs[n]? = some r) (running : r.phase = .running waiters) :
      Joins n w ⟨s, queue, none⟩ (.joined n w)
        ⟨s.setRef n { r with phase := .running (waiters ++ [w]) }, queue, none⟩
  | refused (there : s.refs[n]? = some r) (idle : r.phase = .idle) (refuses : r.nextOutcome = .refuse message) :
      Joins n w ⟨s, queue, none⟩ (.refused n w message)
        ⟨(s.record r.call).setRef n r.called, queue, w.resumed (.error message)⟩
  | started (there : s.refs[n]? = some r) (idle : r.phase = .idle) (makes : r.nextOutcome = .make coroutine) :
      Joins n w ⟨s, queue, none⟩ (.started n w coroutine)
        ⟨(s.record r.call).setRef n { r.called with phase := .running [w] }, queue ++ [.begin n coroutine], none⟩

inductive Turn : Moment → Happening → Moment → Prop where
  | looked (joins : Joins n (.slot slot) ⟨s, before ++ later, none⟩ e after) :
      Turn ⟨s, before ++ .look slot n :: later, none⟩ e after
  | begun : Turn ⟨s, before ++ .begin n coroutine :: later, none⟩ (.begun n) ⟨s, before ++ later, some (n, coroutine)⟩
  | woken : Turn ⟨s, before ++ .wake w n ending :: later, none⟩ (.told n w ending)
      ⟨s, before ++ later, w.resumed ending⟩
  | awaited (joins : Joins n (.coroutine k next) ⟨s, queue, none⟩ e after) :
      Turn ⟨s, queue, some (k, .await n next)⟩ e after
  | ended (there : s.refs[n]? = some r) :
      Turn ⟨s, queue, some (n, .done ending)⟩ (.ended n ending)
        ⟨s.setRef n { r with phase := .done ending }, queue ++ r.phase.waiters.map (.wake · n ending), none⟩
  | asked : Turn ⟨s, queue, going⟩ (.asked slot n) ⟨s, queue ++ [.look slot n], going⟩
  | stepped (ran : s.step one = some (next, answer)) (made : next.refs = s.refs ++ new) :
      Turn ⟨s, queue, going⟩ (.stepped one new) ⟨next, queue, going⟩

inductive Course : Moment → List Happening → Moment → Prop where
  | start : Course m [] m
  | turn : Course m history middle → Turn middle e after → Course m (history ++ [e]) after

def Moment.rest (s : State) : Moment := ⟨s, [], none⟩

def Moment.loop (m : Moment) (answers : List (Nat × Ending)) : Loop := ⟨m.state.refs, m.queue, m.state.calls, answers⟩

namespace Happening

def outcome? (n : Nat) : Happening → Option Outcome
  | .refused k _ message => if k = n then some (.refuse message) else none
  | .started k _ coroutine => if k = n then some (.make coroutine) else none
  | _ => none

def ends? : Happening → Option (Nat × Waiter × Ending)
  | .missing n w => some (n, w, noReference)
  | .refused n w message => some (n, w, .error message)
  | .told n w ending => some (n, w, ending)
  | _ => none

def answer? (e : Happening) : Option (Nat × Ending) :=
  match e.ends? with
  | some (_, .slot slot, ending) => some (slot, ending)
  | _ => none

end Happening

def answersIn (history : List Happening) : List (Nat × Ending) := history.filterMap Happening.answer?

variable {s next : State} {m middle after : Moment} {history : List Happening} {queue : List Job}

theorem Course.append (early : Course m history middle) (late : Course middle more after) :
    Course m (history ++ more) after := by
  induction late with
  | start => simpa using early
  | turn _ last ih =>
    rw [← List.append_assoc]
    exact .turn ih last

theorem Course.single (turn : Turn m e after) : Course m [e] after := .turn .start turn

theorem Course.cons (turn : Turn m e middle) (late : Course middle history after) : Course m (e :: history) after :=
  (Course.single turn).append late

theorem Joins.still (joins : Joins n w m e after) :
    after.state.store = m.state.store ∧ after.state.busy = m.state.busy ∧ after.state.refs.length = m.state.refs.length := by
  cases joins <;> simp [State.setRef, State.record]

theorem join_exact (s : State) (queue : List Job) (answers : List (Nat × Ending)) (n : Nat) (w : Waiter) :
    ∃ e after ending, Joins n w ⟨s, queue, none⟩ e after ∧ after.going = ending.bind w.resumed ∧
      (Moment.loop ⟨s, queue, none⟩ answers).join n w = (after.loop answers, ending) ∧
      answersIn [e] = match w, ending with
        | .slot slot, some ending => [(slot, ending)]
        | _, _ => [] := by
  cases there : s.refs[n]? with
  | none =>
    refine ⟨_, _, some noReference, .missing there, rfl, ?_, ?_⟩
    · simp [Loop.join, Moment.loop, there, noReference]
    · cases w <;> rfl
  | some r =>
    cases phase : r.phase with
    | done ending =>
      refine ⟨_, _, some ending, .told there phase, rfl, ?_, ?_⟩
      · simp [Loop.join, Moment.loop, there, phase]
      · cases w <;> rfl
    | running waiters =>
      refine ⟨_, _, none, .joined there phase, rfl, ?_, ?_⟩
      · simp [Loop.join, Moment.loop, there, phase, State.setRef, Loop.setRef]
      · cases w <;> rfl
    | idle =>
      cases outcome : r.nextOutcome with
      | refuse message =>
        refine ⟨_, _, some (.error message), .refused there phase outcome, rfl, ?_, ?_⟩
        · simp [Loop.join, Moment.loop, there, phase, outcome, State.setRef, State.record, Loop.setRef]
        · cases w <;> rfl
      | make coroutine =>
        refine ⟨_, _, none, .started there phase outcome, rfl, ?_, ?_⟩
        · simp [Loop.join, Moment.loop, there, phase, outcome, State.setRef, State.record, Loop.setRef]
        · cases w <;> rfl

end DaoMapper.Cache
