import DaoMapper.Cache.Run

-- Runs on one cache, one move at a time. Factories run steps of their own, so a run
-- stands at a stack of factories that have begun and not ended, and it has points
-- inside of them; what the whole run comes to is what its steps come to.
namespace DaoMapper.Cache

-- A factory under way: what it computes and how it will end, and around its call the
-- answers before it and the steps behind it.
structure Frame where
  key : Key
  ending : Ending
  answered : List Answer
  rest : List Step

-- `answered` and `todo` are those of the innermost factory, or of the run itself.
structure Machine where
  state : State
  frames : List Frame
  answered : List Answer
  todo : List Step

inductive Event where
  | called (key : Key)
  | made (key : Key) (value : Value)
  | failed (key : Key) (message : String)
  | referred (key : Key) (ref : Nat)
  | found (key : Key) (stored : Stored)
  | got (key : Key) (stored : Option Stored)
  | contained (key : Key) (b : Bool)
  | counted (n : Nat)
  | cleared
  | aside

def Step.outside : Step → Bool
  | .newRef _ | .started _ | .calls => true
  | _ => false

namespace State

def enter (s : State) (key : Key) : State := { s with busy := key :: s.busy, calls := s.calls ++ [.compute key] }

def bind (s : State) (key : Key) (stored : Stored) : State := { s.leave key with store := s.store.put key stored }

def refer (s : State) (key : Key) (outcomes : List Outcome) : State :=
  ({ s with busy := key :: s.busy }.addRef (.async key) outcomes).2.bind key (.ref s.refs.length)

def conclude (s : State) (key : Key) (given : List Answer) : Ending → State × Answer
  | .error message => (s.leave key, .computed (.error message) true given s.store.size)
  | .ok value =>
    (s.bind key (.value value), .computed (.ok (.value value)) true given (s.store.put key (.value value)).size)

end State

inductive Move : Machine → Event → Machine → Prop where
  | called (absent : s.store.get? key = none) (free : key ∉ s.busy) :
      Move ⟨s, frames, answered, .compute key body ending :: rest⟩ (.called key)
        ⟨s.enter key, ⟨key, ending, answered, rest⟩ :: frames, [], body⟩
  | made : Move ⟨s, ⟨key, .ok value, answered, rest⟩ :: frames, given, []⟩ (.made key value)
      ⟨s.bind key (.value value), frames, answered ++ [.computed (.ok (.value value)) true given
        (s.store.put key (.value value)).size], rest⟩
  | failed : Move ⟨s, ⟨key, .error message, answered, rest⟩ :: frames, given, []⟩ (.failed key message)
      ⟨s.leave key, frames, answered ++ [.computed (.error message) true given s.store.size], rest⟩
  | found (there : s.store.get? key = some stored) :
      Move ⟨s, frames, answered, .compute key body ending :: rest⟩ (.found key stored)
        ⟨s, frames, answered ++ [.computed (.ok stored) false [] s.store.size], rest⟩
  | foundReference (there : s.store.get? key = some stored) :
      Move ⟨s, frames, answered, .computeAsync key outcomes :: rest⟩ (.found key stored)
        ⟨s, frames, answered ++ [.reference stored (s.startedOf stored) (some s.store.size)], rest⟩
  | referred (absent : s.store.get? key = none) (free : key ∉ s.busy) :
      Move ⟨s, frames, answered, .computeAsync key outcomes :: rest⟩ (.referred key s.refs.length)
        ⟨s.refer key outcomes, frames, answered ++ [.reference (.ref s.refs.length) false
          (some (s.store.put key (.ref s.refs.length)).size)], rest⟩
  | got : Move ⟨s, frames, answered, .get key :: rest⟩ (.got key (s.store.get? key))
      ⟨s, frames, answered ++ [.got (s.store.get? key)], rest⟩
  | contained : Move ⟨s, frames, answered, .contains key :: rest⟩ (.contained key (s.store.contains key))
      ⟨s, frames, answered ++ [.contained (s.store.contains key)], rest⟩
  | counted : Move ⟨s, frames, answered, .len :: rest⟩ (.counted s.store.size)
      ⟨s, frames, answered ++ [.size s.store.size], rest⟩
  | cleared : Move ⟨s, frames, answered, .clear :: rest⟩ .cleared
      ⟨s.clear, frames, answered ++ [.size 0], rest⟩
  | aside (outside : one.outside = true) (ran : s.step one = some (next, answer)) :
      Move ⟨s, frames, answered, one :: rest⟩ .aside ⟨next, frames, answered ++ [answer], rest⟩

inductive Run : Machine → List Event → Machine → Prop where
  | start : Run m [] m
  | move : Run m history middle → Move middle e next → Run m (history ++ [e]) next

variable {s next : State} {m middle after : Machine} {frames : List Frame} {answered : List Answer}

namespace State

@[simp] theorem enter_busy (s : State) (key : Key) : (s.enter key).busy = key :: s.busy := rfl

@[simp] theorem enter_calls (s : State) (key : Key) : (s.enter key).calls = s.calls ++ [.compute key] := rfl

@[simp] theorem leave_calls (s : State) (key : Key) : (s.leave key).calls = s.calls := rfl

@[simp] theorem bind_calls (s : State) (key : Key) (stored : Stored) : (s.bind key stored).calls = s.calls := rfl

@[simp] theorem refer_calls (s : State) (key : Key) (outcomes : List Outcome) :
    (s.refer key outcomes).calls = s.calls := rfl

theorem refer_busy (free : key ∉ s.busy) (outcomes : List Outcome) : (s.refer key outcomes).busy = s.busy := by
  simp only [refer, bind, leave, addRef]
  rw [List.filter_cons_of_neg (by simp), List.filter_eq_self]
  rintro other among
  have different : other ≠ key := fun same => free (same ▸ among)
  simpa using different

@[simp] theorem clear_busy (s : State) : s.clear.busy = [] := rfl

@[simp] theorem clear_calls (s : State) : s.clear.calls = s.calls := rfl

theorem steps_cons (s : State) (one : Step) (rest : List Step) :
    s.steps (one :: rest) =
      (s.step one).bind fun r => (r.1.steps rest).map fun more => (more.1, r.2 :: more.2) := by
  rw [State.steps]
  cases s.step one with
  | none => rfl
  | some r => cases h : r.1.steps rest <;> simp [h]

theorem step_found (there : s.store.get? key = some stored) (body : List Step) (ending : Ending) :
    s.step (.compute key body ending) = some (s, .computed (.ok stored) false [] s.store.size) := by
  rw [State.step, there]

theorem step_absent (absent : s.store.get? key = none) (body : List Step) (ending : Ending) :
    s.step (.compute key body ending) = (s.enter? key).bind fun entered =>
      (steps { entered with calls := entered.calls ++ [.compute key] } body).map fun r => r.1.conclude key r.2 ending := by
  rw [State.step, absent]
  simp only [Option.bind_eq_bind]
  cases s.enter? key with
  | none => rfl
  | some entered =>
    rw [Option.bind_some, Option.bind_some]
    cases steps { entered with calls := entered.calls ++ [.compute key] } body with
    | none => rfl
    | some r => cases ending <;> rfl

theorem step_called (absent : s.store.get? key = none) (free : key ∉ s.busy) (body : List Step) (ending : Ending) :
    s.step (.compute key body ending) =
      ((s.enter key).steps body).map fun r => r.1.conclude key r.2 ending := by
  have entered : s.enter? key = some { s with busy := key :: s.busy } := by simp [enter?, free]
  rw [step_absent absent, entered]
  rfl

theorem step_busy (absent : s.store.get? key = none) (busy : key ∈ s.busy) (body : List Step) (ending : Ending) :
    s.step (.compute key body ending) = none := by
  have stuck : s.enter? key = none := by simp [enter?, busy]
  rw [step_absent absent, stuck]
  rfl

theorem step_foundReference (there : s.store.get? key = some stored) (outcomes : List Outcome) :
    s.step (.computeAsync key outcomes) = some (s, .reference stored (s.startedOf stored) (some s.store.size)) := by
  rw [State.step, there]

theorem step_absentReference (absent : s.store.get? key = none) (outcomes : List Outcome) :
    s.step (.computeAsync key outcomes) = (s.enter? key).bind fun entered =>
      let added := entered.addRef (.async key) outcomes
      some (added.2.bind key (.ref added.1),
        .reference (.ref added.1) false (some (added.2.store.put key (.ref added.1)).size)) := by
  rw [State.step, absent]
  rfl

theorem step_referred (absent : s.store.get? key = none) (free : key ∉ s.busy) (outcomes : List Outcome) :
    s.step (.computeAsync key outcomes) = some (s.refer key outcomes,
      .reference (.ref s.refs.length) false (some (s.store.put key (.ref s.refs.length)).size)) := by
  have entered : s.enter? key = some { s with busy := key :: s.busy } := by simp [enter?, free]
  rw [step_absentReference absent, entered]
  rfl

theorem step_busyReference (absent : s.store.get? key = none) (busy : key ∈ s.busy) (outcomes : List Outcome) :
    s.step (.computeAsync key outcomes) = none := by
  have stuck : s.enter? key = none := by simp [enter?, busy]
  rw [step_absentReference absent, stuck]
  rfl

end State

namespace Machine

def unwind (s : State) (answers : List Answer) : List Frame → Option (State × List Answer)
  | [] => some (s, answers)
  | f :: frames =>
    let ended := s.conclude f.key answers f.ending
    (ended.1.steps f.rest).bind fun more => unwind more.1 (f.answered ++ ended.2 :: more.2) frames

def resume (m : Machine) : Option (State × List Answer) :=
  (m.state.steps m.todo).bind fun more => unwind more.1 (m.answered ++ more.2) m.frames

end Machine

theorem Machine.resume_step (ran : s.step one = some (next, answer)) :
    Machine.resume ⟨s, frames, answered, one :: rest⟩ = Machine.resume ⟨next, frames, answered ++ [answer], rest⟩ := by
  unfold Machine.resume
  rw [State.steps_cons, ran]
  cases h : next.steps rest <;> simp [h]

theorem Machine.resume_called (absent : s.store.get? key = none) (free : key ∉ s.busy) :
    Machine.resume ⟨s, frames, answered, .compute key body ending :: rest⟩ =
      Machine.resume ⟨s.enter key, ⟨key, ending, answered, rest⟩ :: frames, [], body⟩ := by
  unfold Machine.resume
  rw [State.steps_cons, State.step_called absent free]
  cases (s.enter key).steps body with
  | none => rfl
  | some r => cases h : (r.1.conclude key r.2 ending).1.steps rest <;> simp [Machine.unwind, h]

theorem Machine.resume_concluded (s : State) (f : Frame) (frames : List Frame) (given : List Answer) :
    Machine.resume ⟨s, f :: frames, given, []⟩ =
      Machine.resume ⟨(s.conclude f.key given f.ending).1, frames,
        f.answered ++ [(s.conclude f.key given f.ending).2], f.rest⟩ := by
  unfold Machine.resume
  simp only [State.steps, Option.bind_some, List.append_nil, Machine.unwind]
  cases (s.conclude f.key given f.ending).1.steps f.rest <;> simp

theorem Move.resume (move : Move m e after) : m.resume = after.resume := by
  cases move with
  | called absent free => exact Machine.resume_called absent free
  | made => exact Machine.resume_concluded _ _ _ _
  | failed => exact Machine.resume_concluded _ _ _ _
  | found there => exact Machine.resume_step (State.step_found there _ _)
  | foundReference there => exact Machine.resume_step (State.step_foundReference there _)
  | referred absent free => exact Machine.resume_step (State.step_referred absent free _)
  | got => exact Machine.resume_step rfl
  | contained => exact Machine.resume_step rfl
  | counted => exact Machine.resume_step rfl
  | cleared => exact Machine.resume_step rfl
  | aside _ ran => exact Machine.resume_step ran

namespace Machine

def start (s : State) (script : List Step) : Machine := ⟨s, [], [], script⟩

def ended (s : State) (answers : List Answer) : Machine := ⟨s, [], answers, []⟩

theorem resume_start (s : State) (script : List Step) : (start s script).resume = s.steps script := by
  unfold resume start
  cases s.steps script <;> rfl

theorem resume_ended (s : State) (answers : List Answer) : (ended s answers).resume = some (s, answers) := by
  simp [resume, ended, State.steps, unwind]

end Machine

mutual

def Step.moves : Step → Nat
  | .compute _ body _ => 2 + Step.allMoves body
  | _ => 1

def Step.allMoves : List Step → Nat
  | [] => 0
  | one :: rest => one.moves + Step.allMoves rest

end

theorem Step.moves_pos (one : Step) : 0 < one.moves := by
  cases one with
  | compute _ body _ =>
    rw [Step.moves]
    omega
  | _ => simp [Step.moves]

def Frame.allMoves : List Frame → Nat
  | [] => 0
  | f :: frames => 1 + Step.allMoves f.rest + Frame.allMoves frames

def Machine.moves (m : Machine) : Nat := Step.allMoves m.todo + Frame.allMoves m.frames

theorem Move.fewer (move : Move m e after) : after.moves < m.moves := by
  cases move with
  | @aside _ _ _ _ _ one =>
    have := one.moves_pos
    simp only [Machine.moves, Step.allMoves]
    omega
  | _ => simp [Machine.moves, Frame.allMoves, Step.allMoves, Step.moves] <;> omega

def Machine.Blocked (m : Machine) : Prop :=
  ∃ key rest, m.state.store.get? key = none ∧ key ∈ m.state.busy ∧
    ((∃ body ending, m.todo = .compute key body ending :: rest) ∨ ∃ outcomes, m.todo = .computeAsync key outcomes :: rest)

theorem Machine.Blocked.resume (blocked : m.Blocked) : m.resume = none := by
  obtain ⟨state, frames, answered, todo⟩ := m
  obtain ⟨key, rest, absent, busy, ⟨body, ending, asks⟩ | ⟨outcomes, asks⟩⟩ := blocked
  · simp only at asks
    rw [Machine.resume, asks, State.steps_cons, State.step_busy absent busy]
    rfl
  · simp only at asks
    rw [Machine.resume, asks, State.steps_cons, State.step_busyReference absent busy]
    rfl

theorem Machine.moves_on (m : Machine) :
    (∃ s answers, m = ended s answers) ∨ m.Blocked ∨ ∃ e after, Move m e after := by
  obtain ⟨state, frames, answered, todo⟩ := m
  cases todo with
  | nil =>
    cases frames with
    | nil => exact .inl ⟨state, answered, rfl⟩
    | cons f frames =>
      obtain ⟨key, ending, outer, rest⟩ := f
      cases ending with
      | error message => exact .inr (.inr ⟨_, _, .failed⟩)
      | ok value => exact .inr (.inr ⟨_, _, .made⟩)
  | cons one rest =>
    right
    cases one with
    | compute key body ending =>
      cases stored : state.store.get? key with
      | some v => exact .inr ⟨_, _, .found stored⟩
      | none =>
        by_cases busy : key ∈ state.busy
        -- An unbound key that is under way is what blocks a run.
        · exact .inl ⟨key, rest, stored, busy, .inl ⟨body, ending, rfl⟩⟩
        · exact .inr ⟨_, _, .called stored busy⟩
    | computeAsync key outcomes =>
      cases stored : state.store.get? key with
      | some v => exact .inr ⟨_, _, .foundReference stored⟩
      | none =>
        by_cases busy : key ∈ state.busy
        · exact .inl ⟨key, rest, stored, busy, .inr ⟨outcomes, rfl⟩⟩
        · exact .inr ⟨_, _, .referred stored busy⟩
    | get key => exact .inr ⟨_, _, .got⟩
    | contains key => exact .inr ⟨_, _, .contained⟩
    | len => exact .inr ⟨_, _, .counted⟩
    | clear => exact .inr ⟨_, _, .cleared⟩
    | newRef outcomes => exact .inr ⟨_, _, .aside rfl rfl⟩
    | started n => exact .inr ⟨_, _, .aside rfl rfl⟩
    | calls => exact .inr ⟨_, _, .aside rfl rfl⟩

theorem Run.cons (first : Move m e middle) (rest : Run middle history after) : Run m (e :: history) after := by
  induction rest with
  | start => exact .move .start first
  | move _ last ih => exact .move ih last

theorem Run.resume (ran : Run m history after) : m.resume = after.resume := by
  induction ran with
  | start => rfl
  | move _ last ih => exact ih.trans last.resume

-- Moves run out: a run gets through, or to a key that is under way.
theorem Machine.run_through (m : Machine) :
    (∃ history s answers, Run m history (ended s answers)) ∨ ∃ history stuck, Run m history stuck ∧ stuck.Blocked := by
  rcases m.moves_on with ⟨s, answers, rfl⟩ | blocked | ⟨e, after, first⟩
  · exact .inl ⟨[], s, answers, .start⟩
  · exact .inr ⟨[], m, .start, blocked⟩
  · rcases run_through after with ⟨history, s, answers, rest⟩ | ⟨history, stuck, rest, blocked⟩
    · exact .inl ⟨_, s, answers, .cons first rest⟩
    · exact .inr ⟨_, stuck, .cons first rest, blocked⟩
termination_by m.moves
decreasing_by exact first.fewer

def Machine.inside (m : Machine) (outer : List Frame) : Machine := { m with frames := m.frames ++ outer }

theorem Move.inside (move : Move m e after) (outer : List Frame) : Move (m.inside outer) e (after.inside outer) := by
  cases move with
  | called absent free => exact .called absent free
  | made => exact .made
  | failed => exact .failed
  | found there => exact .found there
  | foundReference there => exact .foundReference there
  | referred absent free => exact .referred absent free
  | got => exact .got
  | contained => exact .contained
  | counted => exact .counted
  | cleared => exact .cleared
  | aside outside ran => exact .aside outside ran

theorem Run.inside (ran : Run m history after) (outer : List Frame) : Run (m.inside outer) history (after.inside outer) := by
  induction ran with
  | start => exact .start
  | move _ last ih => exact ih.move (last.inside outer)

-- The steps of a script come to what a run through all of its moves comes to.
theorem steps_exact (s : State) (script : List Step) :
    s.steps script = some (next, answers) ↔ ∃ history, Run (.start s script) history (.ended next answers) := by
  constructor
  · intro comes
    rw [← Machine.resume_start] at comes
    rcases (Machine.start s script).run_through with ⟨history, other, others, ran⟩ | ⟨history, stuck, ran, blocked⟩
    · rw [ran.resume, Machine.resume_ended, Option.some.injEq, Prod.mk.injEq] at comes
      obtain ⟨rfl, rfl⟩ := comes
      exact ⟨history, ran⟩
    · rw [ran.resume, blocked.resume] at comes
      cases comes
  · rintro ⟨history, ran⟩
    rw [← Machine.resume_start, ran.resume, Machine.resume_ended]

theorem steps_none_exact (s : State) (script : List Step) :
    s.steps script = none ↔ ∃ history stuck, Run (.start s script) history stuck ∧ stuck.Blocked := by
  constructor
  · intro nothing
    rw [← Machine.resume_start] at nothing
    rcases (Machine.start s script).run_through with ⟨history, other, others, ran⟩ | stuck
    · rw [ran.resume, Machine.resume_ended] at nothing
      cases nothing
    · exact stuck
  · rintro ⟨history, stuck, ran, blocked⟩
    rw [← Machine.resume_start, ran.resume, blocked.resume]

end DaoMapper.Cache
