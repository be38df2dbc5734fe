import DaoMapper.Proofs.Paths
import Mathlib.Order.WellFounded
import Mathlib.Data.Fintype.Order
import Mathlib.Data.Multiset.Bind

-- Who is answered. An await that was asked for is answered once, or it is still on its
-- way; and where nothing is ready, whoever is still on the way waits in a circle.
namespace DaoMapper.Cache

def Waiter.sits (i : Nat) : Waiter → Nat
  | .slot j => if j = i then 1 else 0
  | .coroutine .. => 0

def Post.sits (i n : Nat) : Post → Nat
  | .looks j k => if k = n then (Waiter.slot j).sits i else 0
  | .waits w k | .wakes w k _ => if k = n then w.sits i else 0
  | _ => 0

namespace Happening

def opens (i n : Nat) : Happening → Nat
  | .asked j k => if k = n then (Waiter.slot j).sits i else 0
  | _ => 0

def closes (i n : Nat) (e : Happening) : Nat :=
  match e.ends? with
  | some (k, w, _) => if k = n then w.sits i else 0
  | none => 0

end Happening

def opened (i n : Nat) (history : List Happening) : Nat := (history.map (Happening.opens i n)).sum

def closed (i n : Nat) (history : List Happening) : Nat := (history.map (Happening.closes i n)).sum

def Awaits (history : List Happening) (k n : Nat) : Prop :=
  ∃ w c next, .started k w c ∈ history ∧ c.Leads (Heard history) (.await n next)

variable {s : State} {m middle after : Moment} {history early late : List Happening} {e : Happening} {w : Waiter}
  {i k n : Nat} {life : Nat → Option Life} {old new : Multiset Post} {p : Post} {f : Post → Nat} {r : Reference}

@[simp] theorem sits_waits (w : Waiter) : (Post.waits w k).sits i n = if k = n then w.sits i else 0 := rfl

@[simp] theorem sits_wakes (w : Waiter) : (Post.wakes w k ending).sits i n = if k = n then w.sits i else 0 := rfl

@[simp] theorem sits_looks : (Post.looks j k).sits i n = if k = n then (Waiter.slot j).sits i else 0 := rfl

@[simp] theorem sits_begins : (Post.begins k c).sits i n = 0 := rfl

@[simp] theorem sits_goes : (Post.goes k c).sits i n = 0 := rfl

@[simp] theorem sits_before (w : Waiter) : (w.before k).sits i n = if k = n then w.sits i else 0 := by
  cases w with
  | slot => rfl
  | coroutine => simp [Waiter.before, Waiter.sits]

@[simp] theorem tally_sits_going (going : Option (Nat × Coroutine)) : tally (Post.sits i n) (goingPosts going) = 0 := by
  rcases going with _ | ⟨k, c⟩ <;> simp

theorem Shift.tally_sits (shift : Shift life e old new) (i n : Nat) :
    tally (Post.sits i n) new + e.closes i n = tally (Post.sits i n) old + e.opens i n := by
  cases shift with
  | ended waiters =>
    rename_i k ending
    have moved := tally_alike (Post.sits i n) (Post.wakes · k ending) (Post.waits · k) (fun _ => rfl) waiters
    rw [moved, tally_cons]
    simp [Happening.closes, Happening.ends?, Happening.opens]
  | _ => simp [Happening.closes, Happening.ends?, Happening.opens]

theorem Course.accounts (course : Course m history after) (i n : Nat) :
    closed i n history + tally (Post.sits i n) after.posts = opened i n history + tally (Post.sits i n) m.posts := by
  induction course with
  | start => simp [opened, closed]
  | turn _ last ih =>
    obtain ⟨old, new, rest, shift, whole, now⟩ := last.shift
    have moved := shift.tally_sits i n
    rw [whole, tally_add] at ih
    rw [now, tally_add]
    simp only [closed, opened, List.map_append, List.map_singleton, List.sum_append, List.sum_singleton] at ih ⊢
    omega

theorem State.mem_posts (there : p ∈ s.posts) : ∃ w n, p = .waits w n ∧ s.life? n = some .running := by
  rw [State.posts, ← Multiset.sum_coe, ← Multiset.join, Multiset.mem_join] at there
  obtain ⟨posts, among, there⟩ := there
  simp only [Multiset.mem_coe, List.mem_mapIdx] at among
  obtain ⟨n, bound, rfl⟩ := among
  simp only [Reference.posts, Multiset.mem_coe, List.mem_map] at there
  obtain ⟨w, waiting, rfl⟩ := there
  refine ⟨w, n, rfl, ?_⟩
  rw [State.life?_of (List.getElem?_eq_getElem bound)]
  cases phase : s.refs[n].phase with
  | running waiters => rfl
  | idle | done => simp [phase, Phase.waiters] at waiting

theorem tally_some (some_there : tally f old ≠ 0) : ∃ p ∈ old, f p ≠ 0 := by
  by_contra none_there
  push Not at none_there
  apply some_there
  refine Multiset.sum_eq_zero fun x among => ?_
  obtain ⟨p, there, rfl⟩ := Multiset.mem_map.mp among
  exact none_there p there

-- In a finite set a relation that leads on for ever leads back.
theorem leads_back {N : Nat} {R : Nat → Nat → Prop} {S : Nat → Prop} (bound : ∀ n, S n → n < N)
    (on : ∀ n, S n → ∃ k, S k ∧ R n k) (open_ended : ∀ n, ¬ Relation.TransGen R n n) : ∀ n, ¬ S n := by
  intro n inside
  let back : Fin N → Fin N → Prop := fun a b => Relation.TransGen R b a
  have : IsTrans (Fin N) back := ⟨fun _ _ _ ab bc => bc.trans ab⟩
  have : Std.Irrefl back := ⟨fun a circle => open_ended a circle⟩
  have founded : WellFounded back := Finite.wellFounded_of_trans_of_irrefl back
  obtain ⟨last, in_set, none_behind⟩ := founded.has_min {a | S a} ⟨⟨n, bound n inside⟩, inside⟩
  obtain ⟨k, k_inside, next⟩ := on last in_set
  exact none_behind ⟨k, bound k k_inside⟩ k_inside (.single next)

-- Where nothing is ready and nobody waits in a circle, nobody waits.
theorem Course.settles (course : Course (.rest s) history m) (unawaited : Unawaited s) (ready : m.queue = [])
    (going : m.going = none) (open_ended : ∀ n, ¬ Relation.TransGen (Awaits history) n n) : m.posts = 0 := by
  have recorded := course.recorded unawaited
  have traced := course.traced unawaited
  have only : ∀ p ∈ m.posts, ∃ w n, p = .waits w n ∧ m.state.life? n = some .running := by
    intro p there
    simp only [Moment.posts, ready, going, List.map_nil, Multiset.coe_nil, goingPosts_none, zero_add] at there
    exact State.mem_posts there
  have bound : ∀ n, m.state.life? n = some .running → n < m.state.refs.length := by
    intro n running
    simp only [State.life?, Option.map_eq_some_iff] at running
    obtain ⟨r, there, -⟩ := running
    exact (List.getElem?_eq_some_iff.mp there).1
  have none_runs : ∀ n, ¬ m.state.life? n = some .running := by
    refine leads_back bound ?_ open_ended
    intro n running
    have own := recorded.seated.own n
    rw [running] at own
    have stands : tally (Post.isOf n) m.posts ≠ 0 := by
      rw [own]
      decide
    obtain ⟨p, there, of_n⟩ := tally_some stands
    obtain ⟨w, k, rfl, other⟩ := only p there
    refine ⟨k, other, ?_⟩
    cases w with
    | slot => exact absurd rfl of_n
    | coroutine n' next =>
      obtain rfl : n' = n := by
        by_contra different
        exact of_n (if_neg different)
      obtain ⟨w, c, started, leads⟩ := traced.placed _ there n' _ rfl
      exact ⟨w, c, next, started, leads⟩
  refine Multiset.eq_zero_of_forall_notMem fun p there => ?_
  obtain ⟨w, n, -, running⟩ := only p there
  exact none_runs n running

theorem Course.settled (course : Course (.rest s) history m) (unawaited : Unawaited s) (ready : m.queue = [])
    (going : m.going = none) (open_ended : ∀ n, ¬ Relation.TransGen (Awaits history) n n) :
    (∀ n w c, .started n w c ∈ history → ∃ ending, .ended n ending ∈ history) ∧
      ∀ i n, closed i n history = opened i n history := by
  have recorded := course.recorded unawaited
  have nobody := course.settles unawaited ready going open_ended
  constructor
  · intro n w c started
    rcases (recorded.started n).mp ⟨w, c, started⟩ with running | ⟨ending, done⟩
    · have own := recorded.seated.own n
      rw [nobody, running] at own
      cases own
    · exact ⟨ending, (recorded.ended n ending).mpr done⟩
  · intro i n
    have accounts := course.accounts i n
    rwa [nobody, posts_rest unawaited] at accounts

end DaoMapper.Cache
