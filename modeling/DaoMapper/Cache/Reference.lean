import DaoMapper.Cql.CacheKey

-- Lazy references: awaited, they start their factory once and share its result.
-- Work that is ready runs in order of arrival.
namespace DaoMapper.Cache

inductive Key where
  | name (text : String)
  | pair (key : Cql.CacheKey)
  deriving DecidableEq, Repr

inductive Call where
  | compute (key : Key)
  | async (key : Key)
  | ref
  deriving DecidableEq, Repr

abbrev Ending := Except String Value

inductive Coroutine where
  | done (ending : Ending)
  | await (ref : Nat) (next : Ending → Coroutine)

-- What one factory call does: raise before it makes a coroutine, or make one.
inductive Outcome where
  | refuse (message : String)
  | make (coroutine : Coroutine)

namespace Outcome

def fail (message : String) : Outcome := .make (.done (.error message))

def give (value : Value) : Outcome := .make (.done (.ok value))

def await (ref : Nat) : Outcome :=
  .make (.await ref fun ending => .done (ending.map fun value => .list [value]))

end Outcome

inductive Waiter where
  | coroutine (ref : Nat) (next : Ending → Coroutine)
  | slot (index : Nat)

inductive Phase where
  | idle
  | running (waiters : List Waiter)
  | done (ending : Ending)

def Phase.started : Phase → Bool
  | idle => false
  | _ => true

def Phase.waiters : Phase → List Waiter
  | running waiters => waiters
  | _ => []

-- `outcomes` are those of the calls to come; the last one stays.
structure Reference where
  call : Call
  outcomes : List Outcome
  phase : Phase

def Reference.new (call : Call) (outcomes : List Outcome) : Reference := ⟨call, outcomes, .idle⟩

def Reference.nextOutcome (r : Reference) : Outcome := r.outcomes.head?.getD (.give .null)

def Reference.called (r : Reference) : Reference :=
  { r with outcomes := if r.outcomes.length ≤ 1 then r.outcomes else r.outcomes.drop 1 }

-- Ready work: an await, a coroutine's first step, or the news of an ending.
inductive Job where
  | look (slot ref : Nat)
  | begin (ref : Nat) (coroutine : Coroutine)
  | wake (waiter : Waiter) (ref : Nat) (ending : Ending)

structure Loop where
  refs : List Reference
  queue : List Job
  calls : List Call
  answers : List (Nat × Ending)

namespace Loop

def setRef (s : Loop) (n : Nat) (r : Reference) : Loop := { s with refs := s.refs.set n r }

-- An idle reference has its factory called first; who cannot be told yet is woken later.
def join (s : Loop) (n : Nat) (waiter : Waiter) : Loop × Option Ending :=
  match s.refs[n]? with
  | none => (s, some (.error "no such reference"))
  | some r =>
    match r.phase with
    | .done ending => (s, some ending)
    | .running waiters => (s.setRef n { r with phase := .running (waiters ++ [waiter]) }, none)
    | .idle =>
      let s := { s with calls := s.calls ++ [r.call] }
      match r.nextOutcome with
      | .refuse message => (s.setRef n r.called, some (.error message))
      | .make coroutine =>
        let s := s.setRef n { r.called with phase := .running [waiter] }
        ({ s with queue := s.queue ++ [.begin n coroutine] }, none)

def finish (s : Loop) (n : Nat) (ending : Ending) : Loop :=
  match s.refs[n]? with
  | none => s
  | some r =>
    let s := s.setRef n { r with phase := .done ending }
    { s with queue := s.queue ++ r.phase.waiters.map (Job.wake · n ending) }

def drive (s : Loop) (n : Nat) : Coroutine → Loop
  | .done ending => s.finish n ending
  | .await m next =>
    match s.join m (.coroutine n next) with
    | (s, some ending) => s.drive n (next ending)
    | (s, none) => s

def answer (s : Loop) (slot : Nat) (ending : Ending) : Loop :=
  { s with answers := s.answers ++ [(slot, ending)] }

def advance (s : Loop) : Job → Loop
  | .look slot n =>
    match s.join n (.slot slot) with
    | (s, some ending) => s.answer slot ending
    | (s, none) => s
  | .begin n coroutine => s.drive n coroutine
  | .wake (.coroutine n next) _ ending => s.drive n (next ending)
  | .wake (.slot slot) _ ending => s.answer slot ending

def run (s : Loop) : Option Loop :=
  match s.queue with
  | [] => some s
  | job :: rest => advance { s with queue := rest } job |>.run
partial_fixpoint

def answerOf (s : Loop) (slot : Nat) : Option Ending := (s.answers.find? (·.1 == slot)).map (·.2)

end Loop

def gather (refs : List Reference) (calls : List Call) (wanted : List Nat) :
    List Reference × List Call × List (Option Ending) :=
  let queue := wanted.mapIdx fun slot n => Job.look slot n
  let start : Loop := ⟨refs, queue, calls, []⟩
  let s := start.run.getD start
  (s.refs, s.calls, wanted.mapIdx fun slot _ => s.answerOf slot)

end DaoMapper.Cache
