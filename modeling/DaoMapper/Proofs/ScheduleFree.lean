import DaoMapper.Proofs.Endings

-- What awaits come to does not depend on who awaits what, when and together with whom.
namespace DaoMapper.Cache

def State.gathers (s : State) : List (List Nat) → State × List (List (Option Ending))
  | [] => (s, [])
  | wanted :: rest =>
    let (next, results) := s.gather wanted
    let (last, others) := next.gathers rest
    (last, results :: others)

def Acyclic (s : State) : Prop := ∀ n, ¬ Relation.TransGen (Needs s) n n

namespace Happening

def caller? : Happening → Option Nat
  | .refused n _ _ | .started n _ _ => some n
  | _ => none

end Happening

def callers (history : List Happening) : List Nat := history.filterMap Happening.caller?

def Stepless (history : List Happening) : Prop := ∀ one made, .stepped one made ∉ history

structure ScheduleFree (s : State) : Prop where
  same : ∀ one m other m', Course (.rest s) one m → Course (.rest s) other m' → Unmade one → Unmade other →
    ∀ n ending ending', Heard one n ending → Heard other n ending' → ending = ending'
  answered : ∀ history m, Course (.rest s) history m → Unmade history → m.queue = [] → m.going = none →
    ∀ i n, closed i n history = opened i n history
  -- By then the factory of a reference that is wanted has been called once, and at no
  -- time that of another one.
  called : ∀ history m n, Course (.rest s) history m → Unmade history → s.refs[n]? ≠ none → ∃ c, Makes s n c ∧
    (m.queue = [] → m.going = none → Wanted s history n → outcomesIn n history = [.make c]) ∧
    (¬ Wanted s history n → outcomesIn n history = [])
  -- The results of gatherings are those of the references, in any order and grouping,
  gathered : ∃ result : Nat → Ending, ∀ plan,
    (s.gathers plan).2 = plan.map fun wanted => wanted.map fun n => some (result n)
  -- and their factories are called once each: of those that are asked for, and of those
  -- that these need.
  counted : ∀ plan, ∃ called : List Nat, called.Nodup ∧
    (∀ n, n ∈ called ↔ s.refs[n]? ≠ none ∧ ∃ wanted ∈ plan, ∃ k ∈ wanted, Relation.ReflTransGen (Needs s) k n) ∧
    (s.gathers plan).1.calls = s.calls ++ called.filterMap fun n => s.refs[n]?.map (·.call)

variable {s t : State} {m after : Moment} {history more : List Happening} {e : Happening} {w : Waiter} {n k i : Nat}
  {wanted : List Nat} {queue : List Job} {c : Coroutine}

theorem Stepless.unmade (stepless : Stepless history) : Unmade history :=
  fun one made among => absurd among (stepless one made)

theorem Stepless.append (one : Stepless history) (other : Stepless more) : Stepless (history ++ more) := by
  intro step made among
  rcases List.mem_append.mp among with first | second
  · exact one step made first
  · exact other step made second

theorem Inside.stepless (inside : Inside history) : Stepless history := by
  intro step made among
  exact nomatch inside _ among

theorem asked_asksFor : .asked i n ∈ asksFor wanted ↔ wanted[i]? = some n := by
  rw [← opened_iff, opened_asksFor]
  split <;> simp [*]

theorem asksFor_stepless (wanted : List Nat) : Stepless (asksFor wanted) := by
  intro step made among
  obtain ⟨slot, bound, same⟩ := List.mem_mapIdx.mp among
  cases same

theorem asked_gathering (inside : Inside more) :
    (∃ i, .asked i n ∈ asksFor wanted ++ more) ↔ n ∈ wanted := by
  rw [List.mem_iff_getElem?]
  refine exists_congr fun i => ?_
  have not_inside : Happening.asked i n ∉ more := fun among => nomatch inside _ among
  rw [List.mem_append, or_iff_left not_inside, asked_asksFor]

theorem Acyclic.noCircle (acyclic : Acyclic s) (course : Course (.rest s) history m) (sound : Sound s)
    (unmade : Unmade history) : NoCircle history := by
  intro n circle
  exact acyclic n (Relation.TransGen.mono (fun _ _ => course.awaits_needs sound unmade) _ _ circle)

theorem Course.gather_ends (course : Course (.rest s) history (.rest t)) (sound : Sound s) (acyclic : Acyclic s)
    (stepless : Stepless history) (wanted : List Nat) : ∃ more,
      Course (.rest s) (history ++ (asksFor wanted ++ more)) (.rest (t.gather wanted).1) ∧ Inside more ∧
        ∀ (i n : Nat), wanted[i]? = some n → ∃ ending, (t.gather wanted).2[i]? = some (some ending) ∧ Ends s n ending := by
  obtain ⟨more, gathering, inside, answered⟩ := course.gathered sound.toUnawaited rfl rfl wanted
  have whole := course.append gathering
  have unmade := (stepless.append ((asksFor_stepless wanted).append inside.stepless)).unmade
  refine ⟨more, whole, inside, fun i n wants => ?_⟩
  obtain ⟨ending, result, e, among, ends⟩ := answered (acyclic.noCircle whole sound unmade) i n wants
  refine ⟨ending, result, whole.heard_ends sound unmade ⟨e, ?_, _, ends⟩⟩
  exact List.mem_append_right _ (List.mem_append_right _ among)

theorem Ends.total (sound : Sound s) (acyclic : Acyclic s) (n : Nat) : ∃ ending, Ends s n ending := by
  have nothing : Course (.rest s) [] (.rest s) := .start
  obtain ⟨more, -, -, answered⟩ := nothing.gather_ends sound acyclic (by simp [Stepless]) [n]
  obtain ⟨ending, -, ends⟩ := answered 0 n rfl
  exact ⟨ending, ends⟩

theorem gather_length (t : State) (wanted : List Nat) : (t.gather wanted).2.length = wanted.length := by
  simp [State.gather, Cache.gather]

theorem Course.gathers_ends (course : Course (.rest s) history (.rest t)) (sound : Sound s) (acyclic : Acyclic s)
    (stepless : Stepless history) {result : Nat → Ending} (ends : ∀ n, Ends s n (result n)) (plan : List (List Nat)) :
    ∃ more, Course (.rest s) (history ++ more) (.rest (t.gathers plan).1) ∧ Stepless more ∧
      (∀ n, (∃ i, .asked i n ∈ more) ↔ ∃ wanted ∈ plan, n ∈ wanted) ∧
      (t.gathers plan).2 = plan.map fun wanted => wanted.map fun n => some (result n) := by
  induction plan generalizing history t with
  | nil => exact ⟨[], by simpa [State.gathers] using course, by simp [Stepless], by simp, rfl⟩
  | cons wanted rest ih =>
    obtain ⟨first, gathering, inside, answered⟩ := course.gather_ends sound acyclic stepless wanted
    have quiet := (asksFor_stepless wanted).append inside.stepless
    obtain ⟨others, further, still, asked, results⟩ := ih gathering (stepless.append quiet)
    refine ⟨(asksFor wanted ++ first) ++ others, ?_, quiet.append still, ?_, ?_⟩
    · rwa [List.append_assoc] at further
    · intro n
      simp only [List.mem_append (s := asksFor wanted ++ first), exists_or, asked_gathering inside, asked n, List.mem_cons,
        exists_eq_or_imp]
    · have these : (t.gather wanted).2 = wanted.map fun n => some (result n) := by
        refine List.ext_getElem? fun i => ?_
        rw [List.getElem?_map]
        cases wants : wanted[i]? with
        | none => exact List.getElem?_eq_none (by rw [gather_length]; exact List.getElem?_eq_none_iff.mp wants)
        | some n =>
          obtain ⟨ending, found, ends'⟩ := answered i n wants
          rw [found, ends'.single (ends n)]
          rfl
      rw [State.gathers, List.map_cons, ← these, ← results]

theorem caller?_iff : e.caller? = some n ↔ (e.outcome? n).isSome := by
  cases e <;> simp [Happening.caller?, Happening.outcome?]

theorem callers_count (n : Nat) (history : List Happening) : (callers history).count n = (outcomesIn n history).length := by
  induction history with
  | nil => rfl
  | cons e history ih =>
    have here := caller?_iff (e := e) (n := n)
    rw [callers, outcomesIn, List.filterMap_cons, List.filterMap_cons]
    cases called : e.outcome? n with
    | none =>
      cases caller : e.caller? with
      | none => exact ih
      | some k =>
        have other : k ≠ n := by
          rintro rfl
          rw [called] at here
          exact absurd (here.mp caller) (by simp)
        rw [List.count_cons_of_ne other]
        exact ih
    | some outcome =>
      rw [here.mpr (by rw [called]; rfl), List.count_cons_self, List.length_cons]
      exact congrArg (· + 1) ih

theorem Joins.log (joins : Joins k w ⟨s, queue, none⟩ e after) :
    after.state.calls = s.calls ++ (e.caller?.bind fun n => s.refs[n]?.map (·.call)).toList := by
  cases joins with
  | missing | told | joined => exact (List.append_nil _).symm
  | refused there | started there => simp [Happening.caller?, there, State.setRef, State.record]

theorem Turn.log (turn : Turn m e after) (stepless : Stepless [e]) :
    after.state.calls = m.state.calls ++ (e.caller?.bind fun n => m.state.refs[n]?.map (·.call)).toList := by
  cases turn with
  | looked joins | awaited joins => exact joins.log
  | stepped => exact absurd (List.mem_singleton_self _) (stepless _ _)
  | _ => exact (List.append_nil _).symm

theorem Course.call_same (course : Course m history after) (unmade : Unmade history) (n : Nat) :
    after.state.refs[n]?.map (·.call) = m.state.refs[n]?.map (·.call) := by
  cases there : m.state.refs[n]? with
  | none => rw [(course.there_iff unmade n).mpr there]
  | some r =>
    obtain ⟨-, r', now, same, -⟩ := course.calls there
    rw [now, Option.map_some, same, Option.map_some]

theorem Course.log (course : Course m history after) (stepless : Stepless history) :
    after.state.calls = m.state.calls ++ (callers history).filterMap fun n => m.state.refs[n]?.map (·.call) := by
  induction course with
  | start => simp [callers]
  | turn early last ih =>
    have before : Stepless _ := fun one made among => stepless one made (List.mem_append_left _ among)
    have now : Stepless _ := fun one made among => stepless one made (List.mem_append_right _ among)
    rw [last.log now, ih before, callers, callers, List.filterMap_append, List.filterMap_append, List.append_assoc]
    congr 2
    simp only [early.call_same before.unmade]
    cases caller : Happening.caller? _ with
    | none => simp [caller]
    | some n => cases call : m.state.refs[n]?.map (·.call) <;> simp [caller, call]

theorem Course.callers_nodup (course : Course (.rest s) history m) (sound : Sound s) (unmade : Unmade history) :
    (callers history).Nodup := by
  rw [List.nodup_iff_count_le_one]
  intro n
  rw [callers_count]
  cases called : outcomesIn n history with
  | nil => exact Nat.zero_le 1
  | cons outcome rest =>
    have among : outcome ∈ outcomesIn n history := by
      rw [called]
      exact List.mem_cons_self
    obtain ⟨c, makes, -⟩ := course.called_makes sound unmade among
    rcases course.called_once sound.toUnawaited makes with never | once
    · rw [← called, never]
      exact Nat.zero_le 1
    · rw [← called, once]
      exact Nat.le_refl 1

theorem Course.mem_callers (course : Course (.rest s) history m) (sound : Sound s) (unmade : Unmade history) :
    n ∈ callers history ↔ ∃ w c, .started n w c ∈ history := by
  rw [callers, List.mem_filterMap]
  constructor
  · rintro ⟨e, among, calls⟩
    cases e with
    | refused => exact absurd among (course.unrefused sound unmade)
    | started k w c =>
      cases calls
      exact ⟨w, c, among⟩
    | _ => cases calls
  · rintro ⟨w, c, started⟩
    exact ⟨_, started, rfl⟩

theorem Course.unwanted (course : Course (.rest s) history m) (sound : Sound s) (unmade : Unmade history)
    (unwanted : ¬ Wanted s history n) : outcomesIn n history = [] := by
  rw [← List.length_eq_zero_iff, ← callers_count, List.count_eq_zero, course.mem_callers sound unmade]
  rintro ⟨w, c, started⟩
  exact unwanted (course.started_wanted sound unmade started)

theorem schedule_free (sound : Sound s) (acyclic : Acyclic s) : ScheduleFree s := by
  choose result ends using Ends.total sound acyclic
  have nothing : Course (.rest s) [] (.rest s) := .start
  have none_yet : Stepless [] := by simp [Stepless]
  constructor
  case same =>
    intro one m other m' course course' unmade unmade' n ending ending' heard heard'
    exact (course.heard_ends sound unmade heard).single (course'.heard_ends sound unmade' heard')
  case answered =>
    intro history m course unmade ready idle
    exact (course.settled sound.toUnawaited ready idle (acyclic.noCircle course sound unmade)).2
  case called =>
    intro history m n course unmade there
    obtain ⟨r, found⟩ := Option.ne_none_iff_exists'.mp there
    obtain ⟨c, makes⟩ := sound.makes r (List.mem_of_getElem? found)
    refine ⟨c, ⟨r, found, makes⟩, fun ready idle wanted => ?_, course.unwanted sound unmade⟩
    have open_ended := acyclic.noCircle course sound unmade
    obtain ⟨w, c', started⟩ := course.wanted_started sound unmade ready idle open_ended wanted there
    have among : Outcome.make c' ∈ outcomesIn n history := List.mem_filterMap.mpr ⟨_, started, if_pos rfl⟩
    rcases course.called_once sound.toUnawaited ⟨r, found, makes⟩ with never | once
    · rw [never] at among
      cases among
    · exact once
  case gathered =>
    refine ⟨result, fun plan => ?_⟩
    obtain ⟨-, -, -, -, results⟩ := nothing.gathers_ends sound acyclic none_yet ends plan
    exact results
  case counted =>
    intro plan
    obtain ⟨history, course, stepless, asked, -⟩ := nothing.gathers_ends sound acyclic none_yet ends plan
    rw [List.nil_append] at course
    have unmade := stepless.unmade
    have open_ended := acyclic.noCircle course sound unmade
    refine ⟨callers history, course.callers_nodup sound unmade, fun n => ?_, course.log stepless⟩
    rw [course.mem_callers sound unmade]
    constructor
    · rintro ⟨w, c, started⟩
      obtain ⟨i, k, asks, needs⟩ := course.started_wanted sound unmade started
      obtain ⟨wanted, planned, among⟩ := (asked k).mp ⟨i, asks⟩
      exact ⟨(course.started_makes sound unmade started).there, wanted, planned, k, among, needs⟩
    · rintro ⟨there, wanted, planned, k, among, needs⟩
      obtain ⟨i, asks⟩ := (asked k).mpr ⟨wanted, planned, among⟩
      exact course.wanted_started sound unmade rfl rfl open_ended ⟨i, k, asks, needs⟩ there

-- One that fails, two that await it, one through the other, and one beside them.
def chain : State := ⟨.empty, [], [.new .ref [.fail "down"], .new .ref [.await 0], .new .ref [.await 1], .new .ref [.give .null]], []⟩

theorem chain_needs (needs : Needs chain k n) : n < k := by
  obtain ⟨c, next, ⟨r, there, makes⟩, leads⟩ := needs
  have places : ∀ {a b : Nat} {f : Ending → Coroutine} {P : Nat → Ending → Prop}, (∀ x, ∃ y, f x = .done y) →
      (Coroutine.await a f).Leads P (.await b next) → b = a := by
    intro a b f P ends leads
    cases leads with
    | here => rfl
    | @on _ told _ _ _ rest =>
      obtain ⟨y, done⟩ := ends told
      rw [done] at rest
      cases rest
  match k, there with
  | 0, there | 3, there =>
    cases there
    cases makes
    cases leads
  | 1, there =>
    cases there
    cases makes
    have first := places (fun x => ⟨_, rfl⟩) leads
    omega
  | 2, there =>
    cases there
    cases makes
    have second := places (fun x => ⟨_, rfl⟩) leads
    omega

theorem chain_schedule_free : Sound chain ∧ Acyclic chain ∧ ScheduleFree chain := by
  have sound : Sound chain := by
    refine ⟨⟨?_, rfl⟩, ?_⟩
    · simp [chain, Reference.new]
    · simp [chain, Reference.new, Reference.nextOutcome, Outcome.fail, Outcome.give, Outcome.await]
  have acyclic : Acyclic chain := by
    intro n circle
    have lower : Relation.TransGen (fun a b : Nat => b < a) n n := Relation.TransGen.mono (fun _ _ => chain_needs) _ _ circle
    have below : ∀ a b : Nat, Relation.TransGen (fun a b : Nat => b < a) a b → b < a := by
      intro a b path
      induction path with
      | single step => exact step
      | tail _ step ih => exact Nat.lt_trans step ih
    exact Nat.lt_irrefl n (below n n lower)
  exact ⟨sound, acyclic, schedule_free sound acyclic⟩

end DaoMapper.Cache
