import DaoMapper.Proofs.Posts

-- What holds at every moment of a run. The coroutine of a reference that is running
-- stands in one place, and no other reference has one; whoever is woken is told how
-- the reference has ended. So what has ended stays as it is, and the awaits of a
-- reference that are told an ending are all told the same one.
namespace DaoMapper.Cache

def tally (f : Post → Nat) (posts : Multiset Post) : Nat := (posts.map f).sum

def Waiter.is (k : Nat) : Waiter → Nat
  | .coroutine n _ => if n = k then 1 else 0
  | .slot _ => 0

def Post.isOf (k : Nat) : Post → Nat
  | .begins n _ | .goes n _ => if n = k then 1 else 0
  | .waits w _ | .wakes w _ _ => w.is k
  | .looks _ _ => 0

def runs : Option Life → Nat
  | some .running => 1
  | _ => 0

structure Seated (m : Moment) : Prop where
  own : ∀ k, tally (Post.isOf k) m.posts = runs (m.state.life? k)
  woken : ∀ w n ending, .wakes w n ending ∈ m.posts → m.state.life? n = some (.done ending)

namespace Happening

def enters (k : Nat) : Happening → Nat
  | .started n _ _ => if n = k then 1 else 0
  | _ => 0

def leaves (k : Nat) : Happening → Nat
  | .ended n _ => if n = k then 1 else 0
  | _ => 0

end Happening

structure Recorded (history : List Happening) (m : Moment) : Prop where
  seated : Seated m
  started : ∀ n, (∃ w c, .started n w c ∈ history) ↔
    m.state.life? n = some .running ∨ ∃ ending, m.state.life? n = some (.done ending)
  ended : ∀ n ending, .ended n ending ∈ history ↔ m.state.life? n = some (.done ending)
  told : ∀ n w ending, .told n w ending ∈ history → m.state.life? n = some (.done ending)

structure Unawaited (s : State) : Prop where
  idle : ∀ r ∈ s.refs, r.phase = .idle
  unused : s.busy = []

variable {s : State} {m middle after : Moment} {history : List Happening} {e : Happening} {w : Waiter} {k n : Nat}
  {life : Nat → Option Life} {old new : Multiset Post} {f : Post → Nat}

@[simp] theorem tally_zero : tally f 0 = 0 := rfl

@[simp] theorem tally_add (a b : Multiset Post) : tally f (a + b) = tally f a + tally f b := by simp [tally]

@[simp] theorem tally_one (p : Post) : tally f {p} = f p := by simp [tally]

@[simp] theorem tally_cons (p : Post) (a : Multiset Post) : tally f (p ::ₘ a) = f p + tally f a := by simp [tally]

theorem tally_mem {p : Post} {a : Multiset Post} (among : p ∈ a) : f p ≤ tally f a := by
  obtain ⟨others, rfl⟩ := Multiset.exists_cons_of_mem among
  rw [tally_cons]
  exact Nat.le_add_right ..

theorem tally_alike (f : Post → Nat) (a b : Waiter → Post) (alike : ∀ w, f (a w) = f (b w)) (ws : List Waiter) :
    tally f (ws.map a : List Post) = tally f (ws.map b : List Post) := by
  simp only [tally, Multiset.map_coe, List.map_map, Function.comp_def, alike]

@[simp] theorem isOf_begins : (Post.begins n c).isOf k = if n = k then 1 else 0 := rfl

@[simp] theorem isOf_goes : (Post.goes n c).isOf k = if n = k then 1 else 0 := rfl

@[simp] theorem isOf_waits : (Post.waits w n).isOf k = w.is k := rfl

@[simp] theorem isOf_wakes : (Post.wakes w n ending).isOf k = w.is k := rfl

@[simp] theorem isOf_looks : (Post.looks i n).isOf k = 0 := rfl

@[simp] theorem isOf_before (w : Waiter) (n k : Nat) : (w.before n).isOf k = w.is k := by cases w <;> rfl

@[simp] theorem tally_resumed (w : Waiter) (ending : Ending) (k : Nat) :
    tally (Post.isOf k) (goingPosts (w.resumed ending)) = w.is k := by
  cases w with
  | coroutine n next => simp [Waiter.resumed, Waiter.is]
  | slot i => simp [Waiter.resumed, Waiter.is]

@[simp] theorem mem_resumed {p : Post} {ending : Ending} :
    p ∈ goingPosts (w.resumed ending) ↔ ∃ n next, w = .coroutine n next ∧ p = .goes n (next ending) := by
  cases w <;> simp [Waiter.resumed]

-- Coroutines change their places; they come with a start and go with an end.
theorem Shift.tally_own (shift : Shift life e old new) (k : Nat) :
    tally (Post.isOf k) new + e.leaves k = tally (Post.isOf k) old + e.enters k := by
  cases shift with
  | ended waiters =>
    rename_i n ending
    have moved := tally_alike (Post.isOf k) (Post.wakes · n ending) (Post.waits · n) (fun _ => rfl) waiters
    simp only [tally_cons, isOf_goes, moved, Happening.leaves, Happening.enters]
    omega
  | _ => simp [Happening.leaves, Happening.enters]

theorem Shift.woken_new (shift : Shift life e old new) (wakes : .wakes w n ending ∈ new) : e = .ended n ending := by
  cases shift with
  | ended waiters =>
    simp only [Multiset.mem_coe, List.mem_map, Post.wakes.injEq] at wakes
    obtain ⟨_, _, _, rfl, rfl⟩ := wakes
    rfl
  | _ => simp at wakes

theorem Seated.running (seated : Seated m) (stands : p ∈ m.posts) (of : p.isOf k ≠ 0) :
    m.state.life? k = some .running := by
  have one := tally_mem (f := Post.isOf k) stands
  rw [seated.own k] at one
  have positive : runs (m.state.life? k) ≠ 0 := by omega
  unfold runs at positive
  split at positive
  · assumption
  · exact absurd rfl positive

theorem Turn.idle_started (turn : Turn m (.started n w c) after) : m.state.life? n = some .idle := by
  obtain ⟨old, new, rest, shift, -, -⟩ := turn.shift
  cases shift
  assumption

theorem Turn.running_ended (turn : Turn m (.ended n ending) after) (seated : Seated m) :
    m.state.life? n = some .running := by
  obtain ⟨old, new, rest, shift, whole, -⟩ := turn.shift
  cases shift with
  | ended waiters => exact seated.running (p := .goes n (.done ending)) (by simp [whole]) (by simp)

theorem Turn.done_stays (turn : Turn m e after) (seated : Seated m) (done : m.state.life? k = some (.done ending)) :
    after.state.life? k = some (.done ending) := by
  rw [turn.life done]
  cases e with
  | started n w c =>
    have idle := turn.idle_started
    have other : n ≠ k := by
      rintro rfl
      rw [done] at idle
      cases idle
    rw [Happening.onLife, if_neg other]
  | ended n other =>
    have running := turn.running_ended seated
    have other : n ≠ k := by
      rintro rfl
      rw [done] at running
      cases running
    rw [Happening.onLife, if_neg other]
  | _ => rfl

theorem Turn.life_same (turn : Turn m e after) (same : ∀ l, e.onLife k l = l) :
    after.state.life? k = m.state.life? k ∨ m.state.life? k = none ∧ after.state.life? k = some .idle := by
  cases known : m.state.life? k with
  | some l => exact .inl (by rw [turn.life known, same])
  | none =>
    cases there : after.state.life? k with
    | none => exact .inl rfl
    | some l => exact .inr ⟨rfl, by rw [turn.life_new known there]⟩

theorem Turn.runs_same (turn : Turn m e after) (same : ∀ l, e.onLife k l = l) :
    runs (after.state.life? k) = runs (m.state.life? k) := by
  rcases turn.life_same same with still | ⟨absent, idle⟩
  · rw [still]
  · rw [absent, idle]
    rfl

theorem Turn.runs (turn : Turn m e after) (seated : Seated m) (k : Nat) :
    runs (after.state.life? k) + e.leaves k = runs (m.state.life? k) + e.enters k := by
  cases e with
  | started n w c =>
    by_cases same : n = k
    · subst same
      have idle := turn.idle_started
      rw [turn.life idle, idle]
      simp [Happening.onLife, Happening.leaves, Happening.enters, Cache.runs]
    · rw [turn.runs_same (fun l => by simp [Happening.onLife, same])]
      simp [Happening.leaves, Happening.enters, same]
  | ended n ending =>
    by_cases same : n = k
    · subst same
      have running := turn.running_ended seated
      rw [turn.life running, running]
      simp [Happening.onLife, Happening.leaves, Happening.enters, Cache.runs]
    · rw [turn.runs_same (fun l => by simp [Happening.onLife, same])]
      simp [Happening.leaves, Happening.enters, same]
  | _ => exact turn.runs_same fun _ => rfl

theorem Turn.seated (turn : Turn m e after) (seated : Seated m) : Seated after := by
  obtain ⟨old, new, rest, shift, whole, now⟩ := turn.shift
  constructor
  · intro k
    have before := seated.own k
    have moved := shift.tally_own k
    have lives := turn.runs seated k
    rw [whole, tally_add] at before
    rw [now, tally_add]
    omega
  · intro w n ending wakes
    rw [now, Multiset.mem_add] at wakes
    rcases wakes with fresh | old
    · obtain rfl := shift.woken_new fresh
      rw [turn.life (turn.running_ended seated), Happening.onLife, if_pos rfl]
    · exact turn.done_stays seated (seated.woken w n ending (by simp [whole, old]))

theorem posts_rest (unawaited : Unawaited s) : (Moment.rest s).posts = 0 := by
  have none_waits : s.posts = 0 :=
    State.posts_grown (s := { s with refs := [] }) (List.nil_append _).symm unawaited.idle
  simp [Moment.posts, Moment.rest, none_waits]

theorem life?_rest (unawaited : Unawaited s) (there : s.life? n = some l) : l = .idle := by
  simp only [State.life?, Option.map_eq_some_iff] at there
  obtain ⟨r, found, rfl⟩ := there
  rw [unawaited.idle r (List.mem_of_getElem? found)]
  rfl

theorem Recorded.start (unawaited : Unawaited s) : Recorded [] (.rest s) where
  seated := {
    own := by
      intro k
      rw [posts_rest unawaited, tally_zero]
      cases there : s.life? k with
      | none => simp [Moment.rest, there, runs]
      | some l => simp [Moment.rest, there, life?_rest unawaited there, runs]
    woken := by simp [posts_rest unawaited] }
  started := by
    intro n
    have never : ∀ l, s.life? n = some l → l = .idle := fun l there => life?_rest unawaited there
    simp only [List.not_mem_nil, exists_false, false_iff, not_or, not_exists]
    exact ⟨fun there => (nomatch never _ there), fun ending there => (nomatch never _ there)⟩
  ended := by
    intro n ending
    simp only [List.not_mem_nil, false_iff]
    exact fun there => (nomatch life?_rest unawaited there)
  told := by simp

theorem Happening.onLife_about (changes : ¬ ∀ l, e.onLife n l = l) :
    (∃ w c, e = .started n w c) ∨ ∃ ending, e = .ended n ending := by
  cases e with
  | started k w c =>
    by_cases at_n : k = n
    · exact .inl ⟨w, c, by rw [at_n]⟩
    · exact absurd (fun l => by rw [Happening.onLife, if_neg at_n]) changes
  | ended k ending =>
    by_cases at_n : k = n
    · exact .inr ⟨ending, by rw [at_n]⟩
    · exact absurd (fun l => by rw [Happening.onLife, if_neg at_n]) changes
  | _ => exact absurd (fun _ => rfl) changes

theorem Turn.now_running (turn : Turn m (.started n w c) after) : after.state.life? n = some .running := by
  rw [turn.life turn.idle_started, Happening.onLife, if_pos rfl]

theorem Turn.now_done (turn : Turn m (.ended n ending) after) (seated : Seated m) :
    after.state.life? n = some (.done ending) := by
  rw [turn.life (turn.running_ended seated), Happening.onLife, if_pos rfl]

theorem Turn.recorded_ended (turn : Turn m e after) (recorded : Recorded history m) (n : Nat) (ending : Ending) :
    .ended n ending ∈ history ++ [e] ↔ after.state.life? n = some (.done ending) := by
  rw [List.mem_append, List.mem_singleton, recorded.ended]
  constructor
  · rintro (earlier | rfl)
    · exact turn.done_stays recorded.seated earlier
    · exact turn.now_done recorded.seated
  · intro done
    by_cases same : ∀ l, e.onLife n l = l
    · rcases turn.life_same same with still | ⟨-, idle⟩
      · exact .inl (still.symm.trans done)
      · cases idle.symm.trans done
    · rcases Happening.onLife_about same with ⟨w, c, rfl⟩ | ⟨other, rfl⟩
      · cases turn.now_running.symm.trans done
      · cases (turn.now_done recorded.seated).symm.trans done
        exact .inr rfl

theorem Turn.told_done (turn : Turn m (.told n w ending) after) (seated : Seated m) :
    m.state.life? n = some (.done ending) := by
  obtain ⟨old, new, rest, shift, whole, -⟩ := turn.shift
  cases shift with
  | told done => exact done
  | woken => exact seated.woken w n ending (by simp [whole])

theorem Turn.recorded_started (turn : Turn m e after) (recorded : Recorded history m) (n : Nat) :
    (∃ w c, .started n w c ∈ history ++ [e]) ↔
      after.state.life? n = some .running ∨ ∃ ending, after.state.life? n = some (.done ending) := by
  have earlier := recorded.started n
  by_cases same : ∀ l, e.onLife n l = l
  · have other : ∀ w c, e ≠ .started n w c := by
      rintro w c rfl
      exact nomatch (same .idle).symm.trans (if_pos rfl)
    simp only [List.mem_append, List.mem_singleton, (other _ _).symm, or_false, earlier]
    rcases turn.life_same same with still | ⟨absent, idle⟩
    · rw [still]
    · simp [absent, idle]
  · rcases Happening.onLife_about same with ⟨w, c, rfl⟩ | ⟨ending, rfl⟩
    · exact ⟨fun _ => .inl turn.now_running, fun _ => ⟨w, c, by simp⟩⟩
    · obtain ⟨w, c, start⟩ := earlier.mpr (.inl (turn.running_ended recorded.seated))
      exact ⟨fun _ => .inr ⟨ending, turn.now_done recorded.seated⟩, fun _ => ⟨w, c, List.mem_append_left _ start⟩⟩

theorem Turn.recorded (turn : Turn m e after) (recorded : Recorded history m) : Recorded (history ++ [e]) after where
  seated := turn.seated recorded.seated
  started := turn.recorded_started recorded
  ended := turn.recorded_ended recorded
  told := by
    intro n w ending among
    rcases List.mem_append.mp among with earlier | newest
    · exact turn.done_stays recorded.seated (recorded.told n w ending earlier)
    · obtain rfl := List.mem_singleton.mp newest
      exact turn.done_stays recorded.seated (turn.told_done recorded.seated)

theorem Course.recorded (course : Course (.rest s) history m) (unawaited : Unawaited s) : Recorded history m := by
  induction course with
  | start => exact .start unawaited
  | turn _ last ih => exact last.recorded ih

end DaoMapper.Cache
