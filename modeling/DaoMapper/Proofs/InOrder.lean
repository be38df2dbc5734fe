import DaoMapper.Proofs.Factories
import Mathlib.Logic.Hydra
import Mathlib.Order.WellFounded
import Mathlib.Data.Prod.Lex

-- The loop takes what is ready in order of arrival, and it comes to an end: a move puts
-- posts in the place of one that they follow, or a reference is started that was idle.
namespace DaoMapper.Cache

-- Where one can get from a post while no other reference is started.
inductive Follows : Post → Post → Prop where
  | begun : Follows (.goes n c) (.begins n c)
  | looked : Follows (.waits (.slot i) n) (.looks i n)
  | awaited : Follows (.waits (.coroutine k next) n) (.goes k (.await n next))
  | woken : Follows (.wakes w n ending) (.waits w n)
  | resumed : Follows (.goes k (next ending)) (.wakes (.coroutine k next) n ending)
  | passed : Follows (.goes k (next ending)) (.goes k (.await n next))

def Happening.outside : Happening → Bool
  | .asked .. | .stepped .. => true
  | _ => false

def State.unstarted (s : State) : Nat := s.refs.countP fun r => !r.phase.started

def Moment.height (m : Moment) : Nat × Multiset Post := (m.state.unstarted, m.posts)

def Descends : Nat × Multiset Post → Nat × Multiset Post → Prop :=
  Prod.Lex (· < ·) (Relation.TransGen (Relation.CutExpand Follows))

def asksFor (wanted : List Nat) : List Happening := wanted.mapIdx fun slot n => .asked slot n

variable {s : State} {m after : Moment} {history : List Happening} {e : Happening} {w : Waiter} {n k : Nat}
  {queue : List Job} {r r' : Reference} {life : Nat → Option Life} {old new : Multiset Post} {c : Coroutine}

theorem goes_acc (c : Coroutine) (k : Nat) : Acc Follows (.goes k c) := by
  induction c with
  | done ending =>
    refine ⟨_, fun p follows => ?_⟩
    cases follows
  | await n next ih =>
    refine ⟨_, fun p follows => ?_⟩
    cases follows with
    | passed => exact ih _
    | awaited =>
      refine ⟨_, fun p woken => ?_⟩
      cases woken
      refine ⟨_, fun p resumed => ?_⟩
      cases resumed
      exact ih _

theorem follows_founded : WellFounded Follows := by
  have wakes : ∀ w n ending, Acc Follows (.wakes w n ending) := by
    intro w n ending
    refine ⟨_, fun p follows => ?_⟩
    cases follows
    exact goes_acc _ _
  have waits : ∀ w n, Acc Follows (.waits w n) := by
    intro w n
    refine ⟨_, fun p follows => ?_⟩
    cases follows
    exact wakes _ _ _
  refine ⟨fun p => ?_⟩
  cases p with
  | goes k c => exact goes_acc c k
  | waits w n => exact waits w n
  | wakes w n ending => exact wakes w n ending
  | begins n c =>
    refine ⟨_, fun p follows => ?_⟩
    cases follows
    exact goes_acc _ _
  | looks i n =>
    refine ⟨_, fun p follows => ?_⟩
    cases follows
    exact waits _ _

theorem waits_follow (w : Waiter) (n : Nat) : Follows (.waits w n) (w.before n) := by
  cases w with
  | slot => exact .looked
  | coroutine => exact .awaited

theorem descends_founded : WellFounded Descends :=
  WellFounded.prod_lex Nat.lt_wfRel.wf follows_founded.cutExpand.transGen

theorem resumed_follows {p : Post} {ending : Ending} (goes : p ∈ goingPosts (w.resumed ending)) :
    Follows p (w.before n) ∧ Follows p (.wakes w n ending) := by
  obtain ⟨k, next, rfl, rfl⟩ := mem_resumed.mp goes
  exact ⟨.passed, .resumed⟩

theorem wakes_follow (ws : List Waiter) (n : Nat) (ending : Ending) (rest : Multiset Post) :
    Relation.ReflTransGen (Relation.CutExpand Follows) ((ws.map (Post.wakes · n ending) : List Post) + rest)
      ((ws.map (Post.waits · n) : List Post) + rest) := by
  induction ws generalizing rest with
  | nil => exact .refl
  | cons w ws ih =>
    have others := ih ({.wakes w n ending} + rest)
    have woken : Follows (.wakes w n ending) (.waits w n) := .woken
    have this_one := Relation.cutExpand_single_add woken ((ws.map (Post.waits · n) : List Post) + rest)
    simp only [List.map_cons, ← Multiset.cons_coe, ← Multiset.singleton_add]
    refine .tail ?_ (by simpa only [add_assoc] using this_one)
    simpa only [add_left_comm, add_assoc] using others

theorem Shift.descends (shift : Shift life e old new) (inside : e.outside = false)
    (joins : ∀ n w c, e ≠ .started n w c) (rest : Multiset Post) :
    Relation.TransGen (Relation.CutExpand Follows) (new + rest) (old + rest) := by
  have cut : ∀ {p : Post}, (∀ q ∈ new, Follows q p) →
      Relation.TransGen (Relation.CutExpand Follows) (new + rest) ({p} + rest) := by
    intro p follow
    exact .single ((Relation.cutExpand_add_right rest).mpr (Relation.cutExpand_singleton follow))
  cases shift with
  | missing | refused | told => exact cut fun q there => (resumed_follows there).1
  | woken => exact cut fun q there => (resumed_follows there).2
  | joined => exact cut fun q there => Multiset.mem_singleton.mp there ▸ waits_follow _ _
  | begun => exact cut fun q there => Multiset.mem_singleton.mp there ▸ .begun
  | started => exact absurd rfl (joins _ _ _)
  | ended waiters =>
    rename_i n ending
    have gone : Relation.CutExpand Follows ((waiters.map (Post.waits · n) : List Post) + rest)
        (.goes n (.done ending) ::ₘ (waiters.map (Post.waits · n) : List Post) + rest) := by
      refine ⟨0, .goes n (.done ending), by simp, ?_⟩
      rw [add_zero, Multiset.cons_add, add_comm, Multiset.singleton_add]
    exact .tail' (wakes_follow waiters n ending rest) gone
  | asked | stepped => cases inside

theorem State.unstarted_setRef (there : s.refs[n]? = some r) (r' : Reference) :
    (s.setRef n r').unstarted + (if r.phase.started then 0 else 1) =
      s.unstarted + (if r'.phase.started then 0 else 1) := by
  obtain ⟨inside, rfl⟩ := List.getElem?_eq_some_iff.mp there
  have counted : (if s.refs[n].phase.started then 0 else 1) ≤ s.unstarted := by
    split
    · exact Nat.zero_le _
    · exact List.countP_pos_iff.mpr ⟨_, List.getElem_mem inside, by simp [*]⟩
  unfold State.unstarted State.setRef at *
  rw [List.countP_set inside]
  simp only [Bool.not_eq_true', ← Bool.not_eq_true, ite_not] at counted ⊢
  omega

theorem State.unstarted_kept (there : s.refs[n]? = some r) (same : r'.phase.started = r.phase.started) :
    (s.setRef n r').unstarted = s.unstarted := by
  have exchanged := State.unstarted_setRef there r'
  rw [same] at exchanged
  exact Nat.add_right_cancel exchanged

theorem State.unstarted_less (there : s.refs[n]? = some r) (idle : r.phase = .idle) (starts : r'.phase.started = true) :
    (s.setRef n r').unstarted < s.unstarted := by
  have exchanged := State.unstarted_setRef there r'
  rw [starts, idle] at exchanged
  simp only [Phase.started, Bool.false_eq_true, if_false, if_true] at exchanged
  omega

theorem Joins.unstarted (joins : Joins n w ⟨s, queue, none⟩ e after) :
    after.state.unstarted < s.unstarted ∨ (∀ k w c, e ≠ .started k w c) ∧ after.state.unstarted = s.unstarted := by
  cases joins with
  | missing | told => exact .inr ⟨by simp, rfl⟩
  | joined there running => exact .inr ⟨by simp, State.unstarted_kept there (by rw [running]; rfl)⟩
  | refused there => exact .inr ⟨by simp, State.unstarted_kept (s := s.record _) there rfl⟩
  | started there idle => exact .inl (State.unstarted_less (s := s.record _) there idle rfl)

theorem Turn.unstarted (turn : Turn m e after) (seated : Seated m) (inside : e.outside = false) :
    after.state.unstarted < m.state.unstarted ∨
      (∀ k w c, e ≠ .started k w c) ∧ after.state.unstarted = m.state.unstarted := by
  cases turn with
  | looked joins | awaited joins => exact joins.unstarted
  | begun | woken => exact .inr ⟨by simp, rfl⟩
  | @ended n r s queue ending there =>
    have running := seated.running (k := n) (p := .goes n (.done ending)) (by simp [Moment.posts]) (by simp)
    refine .inr ⟨by simp, State.unstarted_kept there ?_⟩
    cases phase : r.phase with
    | running => rfl
    | idle | done => simp [State.life?_of there, phase, Phase.life] at running
  | asked | stepped => cases inside

theorem Turn.descends (turn : Turn m e after) (seated : Seated m) (inside : e.outside = false) :
    Descends after.height m.height := by
  rcases turn.unstarted seated inside with fewer | ⟨passes, same⟩
  · exact .left _ _ fewer
  · obtain ⟨old, new, rest, shift, whole, now⟩ := turn.shift
    unfold Moment.height
    rw [same, whole, now]
    exact .right _ (shift.descends inside passes rest)

def Inside (history : List Happening) : Prop := ∀ e ∈ history, e.outside = false

theorem Inside.append {early late : List Happening} (one : Inside early) (other : Inside late) :
    Inside (early ++ late) := by
  intro e among
  rcases List.mem_append.mp among with first | second
  · exact one e first
  · exact other e second

theorem answersIn_append (early late : List Happening) :
    answersIn (early ++ late) = answersIn early ++ answersIn late := List.filterMap_append

theorem Course.seated (course : Course m history after) (seated : Seated m) : Seated after := by
  induction course with
  | start => exact seated
  | turn _ last ih => exact last.seated ih

theorem Course.descends (course : Course m history after) (seated : Seated m) (inside : Inside history) :
    Relation.ReflTransGen Descends after.height m.height := by
  induction course with
  | start => exact .refl
  | turn early last ih =>
    have before := ih fun e among => inside e (List.mem_append_left _ among)
    exact .head (last.descends (early.seated seated) (inside _ (List.mem_append_right _ (List.mem_singleton_self _)))) before

theorem Joins.inside (joins : Joins n w m e after) : Inside [e] := by
  intro other among
  obtain rfl := List.mem_singleton.mp among
  cases joins <;> rfl

theorem drive_course (c : Coroutine) (s : State) (queue : List Job) (n : Nat) (answers : List (Nat × Ending))
    (seated : Seated ⟨s, queue, some (n, c)⟩) :
    ∃ history after, Course ⟨s, queue, some (n, c)⟩ history after ∧ Inside history ∧ after.going = none ∧
      answersIn history = [] ∧ (Moment.loop ⟨s, queue, none⟩ answers).drive n c = after.loop answers := by
  induction c generalizing s queue with
  | done ending =>
    have running := seated.running (k := n) (p := .goes n (.done ending)) (by simp [Moment.posts]) (by simp)
    simp only [State.life?, Option.map_eq_some_iff] at running
    obtain ⟨r, there, -⟩ := running
    refine ⟨_, _, .single (.ended there), by simp [Inside, Happening.outside], rfl, rfl, ?_⟩
    simp [Loop.drive, Loop.finish, Moment.loop, there, State.setRef, Loop.setRef]
  | await k next ih =>
    obtain ⟨e, ⟨s', queue', going⟩, ending, joins, goes, joined, answered⟩ :=
      join_exact s queue answers k (.coroutine n next)
    have turn : Turn ⟨s, queue, some (n, .await k next)⟩ e ⟨s', queue', going⟩ := .awaited joins
    cases ending with
    | none => exact ⟨_, _, .single turn, joins.inside, goes, answered, by rw [Loop.drive, joined]⟩
    | some ending =>
      obtain rfl : going = some (n, next ending) := goes
      obtain ⟨history, after, course, inside, idle, silent, driven⟩ := ih ending s' queue' (turn.seated seated)
      refine ⟨_, after, (Course.single turn).append course, joins.inside.append inside, idle, ?_, ?_⟩
      · rw [answersIn_append, answered, silent, List.append_nil]
      · rw [Loop.drive, joined]
        exact driven

theorem Turn.looked_first (joins : Joins n (.slot slot) ⟨s, queue, none⟩ e after) :
    Turn ⟨s, .look slot n :: queue, none⟩ e after := by
  have first : Turn ⟨s, [] ++ .look slot n :: queue, none⟩ e after := .looked joins
  exact first

theorem Turn.begun_first : Turn ⟨s, .begin n c :: queue, none⟩ (.begun n) ⟨s, queue, some (n, c)⟩ := by
  have first : Turn ⟨s, [] ++ .begin n c :: queue, none⟩ (.begun n) ⟨s, [] ++ queue, some (n, c)⟩ := .begun
  exact first

theorem Turn.woken_first :
    Turn ⟨s, .wake w n ending :: queue, none⟩ (.told n w ending) ⟨s, queue, w.resumed ending⟩ := by
  have first : Turn ⟨s, [] ++ .wake w n ending :: queue, none⟩ (.told n w ending) ⟨s, [] ++ queue, w.resumed ending⟩ :=
    .woken
  exact first

theorem advance_course (s : State) (job : Job) (rest : List Job) (answers : List (Nat × Ending))
    (seated : Seated ⟨s, job :: rest, none⟩) :
    ∃ e middle history after, Turn ⟨s, job :: rest, none⟩ e middle ∧ Course middle history after ∧
      Inside (e :: history) ∧ after.going = none ∧
      (Moment.loop ⟨s, rest, none⟩ answers).advance job = after.loop (answers ++ answersIn (e :: history)) := by
  -- Both a coroutine that begins and one that is woken go on from the move that takes the job.
  have driven : ∀ e n c, Turn ⟨s, job :: rest, none⟩ e ⟨s, rest, some (n, c)⟩ → e.outside = false → e.answer? = none →
      (Moment.loop ⟨s, rest, none⟩ answers).advance job = (Moment.loop ⟨s, rest, none⟩ answers).drive n c →
      ∃ e middle history after, Turn ⟨s, job :: rest, none⟩ e middle ∧ Course middle history after ∧
        Inside (e :: history) ∧ after.going = none ∧
        (Moment.loop ⟨s, rest, none⟩ answers).advance job = after.loop (answers ++ answersIn (e :: history)) := by
    intro e n c turn inner unanswered advanced
    obtain ⟨history, after, course, inside, idle, silent, drives⟩ := drive_course c s rest n answers (turn.seated seated)
    refine ⟨e, _, history, after, turn, course, List.forall_mem_cons.mpr ⟨inner, inside⟩, idle, ?_⟩
    rw [advanced, drives, ← List.singleton_append, answersIn_append, silent]
    simp [answersIn, unanswered]
  cases job with
  | look slot n =>
    obtain ⟨e, after, ending, joins, goes, joined, answered⟩ := join_exact s rest answers n (.slot slot)
    have idle : after.going = none := by
      rw [goes]
      cases ending <;> rfl
    refine ⟨e, after, [], after, .looked_first joins, .start, joins.inside, idle, ?_⟩
    rw [Loop.advance, joined, answered]
    cases ending with
    | none => simp
    | some ending => rfl
  | begin n c => exact driven _ n c .begun_first rfl rfl rfl
  | wake w n ending =>
    cases w with
    | coroutine k next => exact driven _ k (next ending) .woken_first rfl rfl rfl
    | slot i =>
      refine ⟨_, _, [], _, .woken_first, .start, by simp [Inside, Happening.outside], rfl, ?_⟩
      rfl

theorem run_course (m : Moment) (answers : List (Nat × Ending)) (seated : Seated m) (idle : m.going = none) :
    ∃ history after, Course m history after ∧ Inside history ∧ after.queue = [] ∧ after.going = none ∧
      (m.loop answers).run = some (after.loop (answers ++ answersIn history)) := by
  induction height : m.height using descends_founded.transGen.induction generalizing m answers with
  | _ _ ih =>
    subst height
    obtain ⟨s, queue, going⟩ := m
    obtain rfl : going = none := idle
    rw [Loop.run]
    cases queue with
    | nil => exact ⟨[], _, .start, by simp [Inside], rfl, rfl, by simp [Moment.loop, answersIn]⟩
    | cons job rest =>
      obtain ⟨e, middle, more, between, turn, course, inside, idle, advanced⟩ := advance_course s job rest answers seated
      have whole := (Course.single turn).append course
      have lower := Relation.TransGen.tail'
        (course.descends (turn.seated seated) (List.forall_mem_cons.mp inside).2)
        (turn.descends seated (List.forall_mem_cons.mp inside).1)
      obtain ⟨history, after, further, inner, ready, ended, ran⟩ :=
        ih _ lower between (answers ++ answersIn (e :: more)) (whole.seated seated) idle rfl
      refine ⟨_, after, whole.append further, Inside.append inside inner, ready, ended, ?_⟩
      change ((Moment.loop ⟨s, rest, none⟩ answers).advance job).run = _
      rw [advanced, ran, answersIn_append, List.append_assoc]
      rfl

theorem Turn.inside_still (turn : Turn m e after) (inside : e.outside = false) :
    after.state.store = m.state.store ∧ after.state.busy = m.state.busy := by
  cases turn with
  | looked joins | awaited joins => exact ⟨joins.still.1, joins.still.2.1⟩
  | asked | stepped => cases inside
  | _ => exact ⟨rfl, rfl⟩

theorem Course.inside_still (course : Course m history after) (inside : Inside history) :
    after.state.store = m.state.store ∧ after.state.busy = m.state.busy := by
  induction course with
  | start => exact ⟨rfl, rfl⟩
  | turn _ last ih =>
    obtain ⟨store, busy⟩ := last.inside_still (inside _ (List.mem_append_right _ (List.mem_singleton_self _)))
    obtain ⟨store', busy'⟩ := ih fun e among => inside e (List.mem_append_left _ among)
    exact ⟨store.trans store', busy.trans busy'⟩

theorem asks_course (s : State) (wanted : List Nat) :
    Course (.rest s) (asksFor wanted) ⟨s, wanted.mapIdx fun slot n => .look slot n, none⟩ := by
  induction wanted using List.reverseRecOn with
  | nil => exact .start
  | append_singleton wanted n ih =>
    rw [asksFor, List.mapIdx_concat, List.mapIdx_concat]
    exact .turn ih .asked

-- The references are asked for in order, and the results are the answers of the run.
theorem gather_course (s : State) (wanted : List Nat) (seated : Seated (.rest s)) :
    ∃ history, Course (.rest s) (asksFor wanted ++ history) (.rest (s.gather wanted).1) ∧ Inside history ∧
      (s.gather wanted).2 = wanted.mapIdx fun slot _ => ((answersIn history).find? (·.1 == slot)).map (·.2) := by
  have asked := asks_course s wanted
  obtain ⟨history, ⟨after, queue, going⟩, course, inside, ready, idle, ran⟩ := run_course _ [] (asked.seated seated) rfl
  obtain rfl : queue = [] := ready
  obtain rfl : going = none := idle
  obtain ⟨store, busy⟩ := course.inside_still inside
  have loop : Cache.gather s.refs s.calls wanted =
      (after.refs, after.calls, wanted.mapIdx fun slot _ => ((answersIn history).find? (·.1 == slot)).map (·.2)) := by
    simp only [Moment.loop] at ran
    simp only [Cache.gather, ran, Option.getD_some, Loop.answerOf, List.nil_append]
  have same : (s.gather wanted).1 = after := by
    simp only [State.gather, loop]
    cases after
    simp_all
  refine ⟨history, ?_, inside, ?_⟩
  · rw [same]
    exact asked.append course
  · simp only [State.gather, loop]

end DaoMapper.Cache
