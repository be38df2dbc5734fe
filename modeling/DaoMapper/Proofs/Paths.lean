import DaoMapper.Proofs.Seated

-- The way of a coroutine. Wherever it stands, the endings that its awaits were told
-- have led it there, and it ends with what they have led it to.
namespace DaoMapper.Cache

inductive Coroutine.Leads (P : Nat → Ending → Prop) : Coroutine → Coroutine → Prop where
  | here : Leads P c c
  | on (told : P n ending) (rest : Leads P (next ending) c) : Leads P (.await n next) c

def Heard (history : List Happening) (n : Nat) (ending : Ending) : Prop :=
  ∃ e ∈ history, ∃ w, e.ends? = some (n, w, ending)

def Post.stand : Post → Option (Nat × Coroutine)
  | .begins k c | .goes k c => some (k, c)
  | .waits (.coroutine k next) n | .wakes (.coroutine k next) n _ => some (k, .await n next)
  | _ => none

structure Traced (history : List Happening) (m : Moment) : Prop where
  placed : ∀ p ∈ m.posts, ∀ k c, p.stand = some (k, c) → ∃ w c₀, .started k w c₀ ∈ history ∧ c₀.Leads (Heard history) c
  through : ∀ k ending, .ended k ending ∈ history →
    ∃ w c₀, .started k w c₀ ∈ history ∧ c₀.Leads (Heard history) (.done ending)

variable {s : State} {m middle after : Moment} {history early late : List Happening} {e : Happening} {w : Waiter}
  {k n : Nat} {life : Nat → Option Life} {old new : Multiset Post} {p : Post} {c c' : Coroutine}
  {P Q : Nat → Ending → Prop}

theorem stand_before (w : Waiter) (n : Nat) : (w.before n).stand = (Post.waits w n).stand := by cases w <;> rfl

theorem stand_wakes (w : Waiter) (n : Nat) (ending : Ending) :
    (Post.wakes w n ending).stand = (Post.waits w n).stand := by cases w <;> rfl

theorem Coroutine.Leads.mono (leads : c.Leads P c') (more : ∀ n ending, P n ending → Q n ending) : c.Leads Q c' := by
  induction leads with
  | here => exact .here
  | on told _ ih => exact .on (more _ _ told) ih

theorem Coroutine.Leads.then (leads : c.Leads P (.await n next)) (told : P n ending) : c.Leads P (next ending) := by
  generalize place : Coroutine.await n next = c' at leads
  induction leads with
  | here => exact place ▸ .on told .here
  | on first _ ih => exact .on first (ih place)

-- Where an await is always told the same, one who is through has passed every await on
-- the way.
theorem Coroutine.Leads.passed (reached : c.Leads Q (.await n next)) (through : c.Leads P (.done ending))
    (within : ∀ n ending, P n ending → Q n ending)
    (one : ∀ n one other, Q n one → Q n other → one = other) : ∃ heard, P n heard := by
  generalize place : Coroutine.await n next = c' at reached
  induction reached with
  | here =>
    subst place
    cases through with
    | on told => exact ⟨_, told⟩
  | on told _ ih =>
    cases through with
    | on heard rest => exact ih (one _ _ _ (within _ _ heard) told ▸ rest) place

theorem Heard.mono (heard : Heard history n ending) (more : List Happening) : Heard (history ++ more) n ending := by
  obtain ⟨e, among, rest⟩ := heard
  exact ⟨e, List.mem_append_left _ among, rest⟩

-- It has stood there, has been started, or its await has ended.
theorem Shift.stand_new (shift : Shift life e old new) (there : p ∈ new) (stands : p.stand = some (k, c)) :
    (∃ q ∈ old, q.stand = some (k, c)) ∨ (∃ w, e = .started k w c) ∨
      ∃ q ∈ old, ∃ n next ending, q.stand = some (k, .await n next) ∧ e.ends? = some (n, .coroutine k next, ending) ∧
        c = next ending := by
  -- Whoever is told how its await ended goes on with what it makes of that.
  have resumed : ∀ {n : Nat} {w : Waiter} {ending : Ending} {q : Post}, q ∈ old → e.ends? = some (n, w, ending) →
      (∀ k next, w = .coroutine k next → q.stand = some (k, .await n next)) → p ∈ goingPosts (w.resumed ending) →
      ∃ q ∈ old, ∃ n next ending, q.stand = some (k, .await n next) ∧ e.ends? = some (n, .coroutine k next, ending) ∧
        c = next ending := by
    intro n w ending q before ends waited goes
    obtain ⟨k', next, rfl, rfl⟩ := mem_resumed.mp goes
    simp only [Post.stand, Option.some.injEq, Prod.mk.injEq] at stands
    obtain ⟨rfl, rfl⟩ := stands
    exact ⟨q, before, n, next, ending, waited _ _ rfl, ends, rfl⟩
  cases shift with
  | missing | refused | told | woken =>
    refine .inr (.inr (resumed (Multiset.mem_singleton_self _) rfl ?_ there))
    rintro k next rfl
    rfl
  | started =>
    rename_i n w c _
    simp only [Multiset.insert_eq_cons, Multiset.mem_cons, Multiset.mem_singleton] at there
    rcases there with rfl | rfl
    · exact .inl ⟨_, Multiset.mem_singleton_self _, stand_before w n ▸ stands⟩
    · simp only [Post.stand, Option.some.injEq, Prod.mk.injEq] at stands
      obtain ⟨rfl, rfl⟩ := stands
      exact .inr (.inl ⟨w, rfl⟩)
  | joined =>
    rename_i n w _
    obtain rfl := Multiset.mem_singleton.mp there
    exact .inl ⟨_, Multiset.mem_singleton_self _, stand_before w n ▸ stands⟩
  | begun =>
    obtain rfl := Multiset.mem_singleton.mp there
    exact .inl ⟨_, Multiset.mem_singleton_self _, stands⟩
  | ended waiters =>
    rename_i n ending
    simp only [Multiset.mem_coe, List.mem_map] at there
    obtain ⟨w, among, rfl⟩ := there
    exact .inl ⟨.waits w n, by simp [among], stand_wakes w n ending ▸ stands⟩
  | asked =>
    obtain rfl := Multiset.mem_singleton.mp there
    cases stands
  | stepped => exact absurd there (Multiset.notMem_zero _)

theorem Turn.ended_reached (turn : Turn m (.ended n ending) after) (traced : Traced history m) :
    ∃ w c₀, .started n w c₀ ∈ history ∧ c₀.Leads (Heard history) (.done ending) := by
  obtain ⟨old, new, rest, shift, whole, -⟩ := turn.shift
  cases shift with
  | ended waiters => exact traced.placed (.goes n (.done ending)) (by simp [whole]) n _ rfl

theorem Turn.traced (turn : Turn m e after) (traced : Traced history m) : Traced (history ++ [e]) after := by
  obtain ⟨old, new, rest, shift, whole, now⟩ := turn.shift
  have kept : ∀ p ∈ m.posts, ∀ k c, p.stand = some (k, c) →
      ∃ w c₀, .started k w c₀ ∈ history ++ [e] ∧ c₀.Leads (Heard (history ++ [e])) c := by
    intro p there k c stands
    obtain ⟨w, c₀, started, leads⟩ := traced.placed p there k c stands
    exact ⟨w, c₀, List.mem_append_left _ started, leads.mono fun _ _ heard => heard.mono _⟩
  constructor
  · intro p there k c stands
    rw [now, Multiset.mem_add] at there
    rcases there with fresh | stays
    · rcases shift.stand_new fresh stands with
        ⟨q, before, same⟩ | ⟨w, rfl⟩ | ⟨q, before, n, next, ending, waited, ends, rfl⟩
      · exact kept q (by simp [whole, before]) k c same
      · exact ⟨w, c, by simp, .here⟩
      · obtain ⟨w, c₀, started, leads⟩ := kept q (by simp [whole, before]) k _ waited
        exact ⟨w, c₀, started, leads.then ⟨e, by simp, _, ends⟩⟩
    · exact kept p (by simp [whole, stays]) k c stands
  · intro k ending among
    rcases List.mem_append.mp among with earlier | newest
    · obtain ⟨w, c₀, started, leads⟩ := traced.through k ending earlier
      exact ⟨w, c₀, List.mem_append_left _ started, leads.mono fun _ _ heard => heard.mono _⟩
    · obtain rfl := List.mem_singleton.mp newest
      obtain ⟨w, c₀, started, leads⟩ := turn.ended_reached traced
      exact ⟨w, c₀, List.mem_append_left _ started, leads.mono fun _ _ heard => heard.mono _⟩

theorem Course.traced (course : Course (.rest s) history m) (unawaited : Unawaited s) : Traced history m := by
  induction course with
  | start => exact ⟨by simp [posts_rest unawaited], by simp⟩
  | turn _ last ih => exact last.traced ih

end DaoMapper.Cache
