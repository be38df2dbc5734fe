import DaoMapper.Proofs.Awaiting
import DaoMapper.Proofs.Retained
import Mathlib.Algebra.Order.Group.Multiset
import Mathlib.Algebra.BigOperators.Group.Multiset.Basic
import Mathlib.Algebra.BigOperators.Group.List.Basic
import Mathlib.Tactic.Abel

-- Where everybody stands. A move takes a few posts away and puts others in their place,
-- and it is allowed or not by how far the reference it is about has come.
namespace DaoMapper.Cache

inductive Post where
  | looks (slot ref : Nat)
  | begins (ref : Nat) (coroutine : Coroutine)
  | goes (ref : Nat) (coroutine : Coroutine)
  | waits (waiter : Waiter) (ref : Nat)
  | wakes (waiter : Waiter) (ref : Nat) (ending : Ending)

inductive Life where
  | idle
  | running
  | done (ending : Ending)

def Phase.life : Phase → Life
  | .idle => .idle
  | .running _ => .running
  | .done ending => .done ending

def Job.post : Job → Post
  | .look slot n => .looks slot n
  | .begin n coroutine => .begins n coroutine
  | .wake w n ending => .wakes w n ending

def Reference.posts (n : Nat) (r : Reference) : Multiset Post := (r.phase.waiters.map (Post.waits · n) : List Post)

def State.posts (s : State) : Multiset Post := (s.refs.mapIdx fun n r => r.posts n).sum

def goingPosts (going : Option (Nat × Coroutine)) : Multiset Post := (going.map fun g => Post.goes g.1 g.2).toList

def Moment.posts (m : Moment) : Multiset Post := (m.queue.map Job.post : List Post) + goingPosts m.going + m.state.posts

def State.life? (s : State) (n : Nat) : Option Life := s.refs[n]?.map fun r => r.phase.life

def Waiter.before (n : Nat) : Waiter → Post
  | .coroutine k next => .goes k (.await n next)
  | .slot i => .looks i n

inductive Shift (life : Nat → Option Life) : Happening → Multiset Post → Multiset Post → Prop where
  | missing (absent : life n = none) : Shift life (.missing n w) {w.before n} (goingPosts (w.resumed noReference))
  | refused (idle : life n = some .idle) :
      Shift life (.refused n w message) {w.before n} (goingPosts (w.resumed (.error message)))
  | started (idle : life n = some .idle) : Shift life (.started n w c) {w.before n} {.waits w n, .begins n c}
  | joined (running : life n = some .running) : Shift life (.joined n w) {w.before n} {.waits w n}
  | told (done : life n = some (.done ending)) :
      Shift life (.told n w ending) {w.before n} (goingPosts (w.resumed ending))
  | woken : Shift life (.told n w ending) {.wakes w n ending} (goingPosts (w.resumed ending))
  | begun : Shift life (.begun n) {.begins n c} {.goes n c}
  | ended (waiters : List Waiter) : Shift life (.ended n ending)
      (.goes n (.done ending) ::ₘ (waiters.map (Post.waits · n) : List Post))
      (waiters.map (Post.wakes · n ending) : List Post)
  | asked : Shift life (.asked slot n) 0 {.looks slot n}
  | stepped : Shift life (.stepped one made) 0 0

def Happening.onLife (n : Nat) (l : Life) : Happening → Life
  | .started k _ _ => if k = n then .running else l
  | .ended k ending => if k = n then .done ending else l
  | _ => l

variable {s next : State} {m after : Moment} {history : List Happening} {queue before later : List Job} {r r' : Reference}

@[simp] theorem goingPosts_none : goingPosts none = 0 := rfl

@[simp] theorem goingPosts_some (n : Nat) (c : Coroutine) : goingPosts (some (n, c)) = {.goes n c} := rfl

@[simp] theorem Reference.posts_idle (idle : r.phase = .idle) (n : Nat) : r.posts n = 0 := by
  simp [Reference.posts, Phase.waiters, idle]

@[simp] theorem Reference.posts_done (done : r.phase = .done ending) (n : Nat) : r.posts n = 0 := by
  simp [Reference.posts, Phase.waiters, done]

theorem sum_mapIdx_set {α : Type} {a : α} {n : Nat} (l : List α) (f : Nat → α → Multiset Post)
    (there : l[n]? = some a) :
    ∃ others, (l.mapIdx f).sum = f n a + others ∧ ∀ b, ((l.set n b).mapIdx f).sum = f n b + others := by
  induction l generalizing n f with
  | nil => simp at there
  | cons x rest ih =>
    cases n with
    | zero =>
      simp only [List.getElem?_cons_zero, Option.some.injEq] at there
      subst there
      exact ⟨_, List.mapIdx_cons ▸ List.sum_cons, fun b => by rw [List.set_cons_zero, List.mapIdx_cons, List.sum_cons]⟩
    | succ n =>
      obtain ⟨others, whole, replaced⟩ := ih (fun i => f (i + 1)) there
      refine ⟨f 0 x + others, ?_, fun b => ?_⟩
      · rw [List.mapIdx_cons, List.sum_cons, whole]
        abel
      · rw [List.set_cons_succ, List.mapIdx_cons, List.sum_cons, replaced]
        abel

theorem State.posts_setRef (there : s.refs[n]? = some r) :
    ∃ others, s.posts = r.posts n + others ∧ ∀ r', (s.setRef n r').posts = r'.posts n + others :=
  sum_mapIdx_set s.refs (fun n r => r.posts n) there

theorem State.posts_grown (made : next.refs = s.refs ++ new) (idle : ∀ r ∈ new, r.phase = .idle) :
    next.posts = s.posts := by
  have none_wait : ∀ p ∈ new.mapIdx (fun i r => r.posts (i + s.refs.length)), p = 0 := by
    simp only [List.mem_mapIdx]
    rintro p ⟨i, bound, rfl⟩
    exact Reference.posts_idle (idle _ (List.getElem_mem bound)) _
  rw [State.posts, made, List.mapIdx_append, List.sum_append, List.sum_eq_zero none_wait, add_zero]
  rfl

@[simp] theorem posts_job (s : State) (before later : List Job) (job : Job) (going : Option (Nat × Coroutine)) :
    Moment.posts ⟨s, before ++ job :: later, going⟩ = {job.post} + Moment.posts ⟨s, before ++ later, going⟩ := by
  simp only [Moment.posts, List.map_append, List.map_cons, ← Multiset.coe_add, ← Multiset.cons_coe,
    ← Multiset.singleton_add]
  abel

theorem posts_push (s : State) (queue more : List Job) (going : Option (Nat × Coroutine)) :
    Moment.posts ⟨s, queue ++ more, going⟩ = (more.map Job.post : List Post) + Moment.posts ⟨s, queue, going⟩ := by
  simp only [Moment.posts, List.map_append, ← Multiset.coe_add]
  abel

theorem posts_going (s : State) (queue : List Job) (going : Option (Nat × Coroutine)) :
    Moment.posts ⟨s, queue, going⟩ = goingPosts going + Moment.posts ⟨s, queue, none⟩ := by
  simp only [Moment.posts, goingPosts_none]
  abel

theorem posts_setRef (there : s.refs[n]? = some r) (queue : List Job) :
    ∃ others, Moment.posts ⟨s, queue, none⟩ = r.posts n + others ∧
      ∀ r', Moment.posts ⟨s.setRef n r', queue, none⟩ = r'.posts n + others := by
  obtain ⟨others, whole, replaced⟩ := State.posts_setRef there
  refine ⟨(queue.map Job.post : List Post) + others, ?_, fun r' => ?_⟩
  · simp only [Moment.posts, goingPosts_none, whole]
    abel
  · simp only [Moment.posts, goingPosts_none, replaced]
    abel

theorem State.life?_of (there : s.refs[n]? = some r) : s.life? n = some r.phase.life := by
  simp [State.life?, there]

@[simp] theorem posts_record (s : State) (call : Call) (queue : List Job) (going : Option (Nat × Coroutine)) :
    Moment.posts ⟨s.record call, queue, going⟩ = Moment.posts ⟨s, queue, going⟩ := rfl

theorem Joins.shift (joins : Joins n w ⟨s, queue, none⟩ e after) :
    ∃ new, Shift s.life? e {w.before n} new ∧
      after.posts = new + Moment.posts ⟨s, queue, none⟩ := by
  cases joins with
  | missing absent => exact ⟨_, .missing (by simp [State.life?, absent]), posts_going _ _ _⟩
  | told there done => exact ⟨_, .told (by rw [State.life?_of there, done]; rfl), posts_going _ _ _⟩
  | joined there running =>
    rename_i waiters
    obtain ⟨others, whole, replaced⟩ := posts_setRef there queue
    refine ⟨_, .joined (by rw [State.life?_of there, running]; rfl), ?_⟩
    rw [replaced, whole]
    simp only [Reference.posts, running, Phase.waiters, List.map_append, ← Multiset.coe_add, List.map_cons, List.map_nil,
      Multiset.coe_singleton]
    abel
  | refused there idle =>
    rename_i r message refuses
    obtain ⟨others, whole, replaced⟩ := posts_setRef (s := s.record r.call) there queue
    refine ⟨_, .refused (by rw [State.life?_of there, idle]; rfl), ?_⟩
    rw [posts_record] at whole
    rw [posts_going, replaced, whole]
    rw [Reference.posts_idle idle, Reference.posts_idle (r := r.called) idle]
  | started there idle =>
    rename_i r c makes
    obtain ⟨others, whole, replaced⟩ := posts_setRef (s := s.record r.call) there queue
    refine ⟨_, .started (by rw [State.life?_of there, idle]; rfl), ?_⟩
    rw [posts_record] at whole
    rw [posts_push, replaced, whole, Reference.posts_idle idle]
    simp only [Reference.posts, Phase.waiters, List.map_cons, List.map_nil, Multiset.coe_singleton, Job.post, zero_add,
      Multiset.insert_eq_cons, ← Multiset.singleton_add]
    abel

theorem Turn.shift (turn : Turn m e after) :
    ∃ old new rest, Shift m.state.life? e old new ∧ m.posts = old + rest ∧ after.posts = new + rest := by
  cases turn with
  | looked joins =>
    obtain ⟨new, shift, now⟩ := joins.shift
    exact ⟨_, new, _, shift, posts_job _ _ _ _ _, now⟩
  | begun => exact ⟨_, _, _, .begun, posts_job _ _ _ _ _, posts_going _ _ _⟩
  | woken => exact ⟨_, _, _, .woken, posts_job _ _ _ _ _, posts_going _ _ _⟩
  | awaited joins =>
    obtain ⟨new, shift, now⟩ := joins.shift
    exact ⟨_, new, _, shift, posts_going _ _ _, now⟩
  | ended there =>
    rename_i r s queue ending
    obtain ⟨others, whole, replaced⟩ := posts_setRef there queue
    refine ⟨_, _, others, .ended r.phase.waiters, ?_, ?_⟩
    · rw [posts_going, whole, goingPosts_some, Reference.posts, ← Multiset.singleton_add]
      abel
    · rw [posts_push, replaced, Reference.posts_done rfl, zero_add, List.map_map]
      rfl
  | asked =>
    refine ⟨_, _, _, .asked, (zero_add _).symm, posts_push _ _ _ _⟩
  | stepped ran made =>
    obtain ⟨new, grown, idle⟩ := State.step_grown ran
    have same := List.append_cancel_left (grown.symm.trans made)
    refine ⟨_, _, _, .stepped, (zero_add _).symm, ?_⟩
    rw [zero_add, Moment.posts, Moment.posts, State.posts_grown grown idle]

theorem State.refs_setRef (there : s.refs[n]? = some r) (r' : Reference) (k : Nat) :
    (s.setRef n r').refs[k]? = if n = k then some r' else s.refs[k]? := by
  have inside : n < s.refs.length := (List.getElem?_eq_some_iff.mp there).1
  rw [State.setRef, List.getElem?_set, if_pos inside]

theorem State.life?_setRef (there : s.refs[n]? = some r) (r' : Reference) (k : Nat) :
    (s.setRef n r').life? k = if n = k then some r'.phase.life else s.life? k := by
  rw [State.life?, State.refs_setRef there]
  split <;> rfl

theorem State.life?_unchanged (there : s.refs[n]? = some r) (same : r'.phase.life = r.phase.life) (k : Nat) :
    (s.setRef n r').life? k = s.life? k := by
  rw [State.life?_setRef there]
  split
  · rename_i at_n
    subst at_n
    rw [same, State.life?_of there]
  · rfl

theorem State.life?_record (s : State) (call : Call) : (s.record call).life? = s.life? := rfl

theorem Joins.life (joins : Joins n w ⟨s, queue, none⟩ e after) (k : Nat) :
    after.state.life? k = (s.life? k).map fun l => e.onLife k l := by
  cases joins with
  | missing | told => exact (Option.map_id' ..).symm
  | joined there running => exact (State.life?_unchanged there (by rw [running]; rfl) k).trans (Option.map_id' ..).symm
  | refused there idle =>
    rename_i r message refuses
    have same : r.called.phase.life = r.phase.life := rfl
    exact (State.life?_unchanged (s := s.record r.call) there same k).trans (Option.map_id' ..).symm
  | started there =>
    rw [State.life?_setRef (s := s.record _) there, State.life?_record]
    by_cases same : n = k
    · subst same
      rw [if_pos rfl, State.life?_of there, Option.map_some, Happening.onLife, if_pos rfl]
      rfl
    · simp only [if_neg same, Happening.onLife]
      exact (Option.map_id' ..).symm

theorem Turn.life (turn : Turn m e after) (known : m.state.life? k = some l) :
    after.state.life? k = some (e.onLife k l) := by
  cases turn with
  | looked joins | awaited joins =>
    simp only at known
    rw [joins.life k, known]
    rfl
  | begun | woken | asked => exact known
  | ended there =>
    rw [State.life?_setRef there, Happening.onLife]
    split
    · rfl
    · exact known
  | stepped ran made =>
    simp only [State.life?, Option.map_eq_some_iff] at known ⊢
    obtain ⟨r, there, rfl⟩ := known
    refine ⟨r, ?_, rfl⟩
    rw [made, List.getElem?_append_left (List.getElem?_eq_some_iff.mp there).1, there]

theorem Turn.life_new (turn : Turn m e after) (absent : m.state.life? k = none)
    (there : after.state.life? k = some l) : l = .idle := by
  cases turn with
  | looked joins | awaited joins =>
    simp only at absent
    rw [joins.life k, absent] at there
    cases there
  | begun | woken | asked => exact absurd (there.symm.trans absent) (by simp)
  | ended found =>
    simp only at absent
    rw [State.life?_setRef found] at there
    split at there
    · rename_i same
      subst same
      rw [State.life?_of found] at absent
      cases absent
    · exact absurd (there.symm.trans absent) (by simp)
  | stepped ran made =>
    obtain ⟨new, grown, idle⟩ := State.step_grown ran
    simp only [State.life?, Option.map_eq_none_iff, Option.map_eq_some_iff] at absent there
    obtain ⟨r, found, rfl⟩ := there
    rw [grown, List.getElem?_append_right (List.getElem?_eq_none_iff.mp absent)] at found
    rw [idle r (List.mem_of_getElem? found)]
    rfl

end DaoMapper.Cache
