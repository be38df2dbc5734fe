import DaoMapper.Proofs.Gathering

-- How references end, told without a schedule: from what their factories make alone.
-- Every run of awaits comes to the same.
namespace DaoMapper.Cache

def Makes (s : State) (n : Nat) (c : Coroutine) : Prop := ∃ r, s.refs[n]? = some r ∧ r.nextOutcome = .make c

-- Each of its awaits is told what the coroutine of that reference comes to.
inductive Comes (s : State) : Coroutine → Ending → Prop where
  | done : Comes s (.done ending) ending
  | missing (absent : s.refs[n]? = none) (rest : Comes s (next noReference) ending) : Comes s (.await n next) ending
  | told (makes : Makes s n c) (ends : Comes s c first) (rest : Comes s (next first) ending) :
      Comes s (.await n next) ending

def Ends (s : State) (n : Nat) (ending : Ending) : Prop := Comes s (.await n .done) ending

def Needs (s : State) (k n : Nat) : Prop := ∃ c next, Makes s k c ∧ c.Leads (Ends s) (.await n next)

def Wanted (s : State) (history : List Happening) (n : Nat) : Prop :=
  ∃ i k, .asked i k ∈ history ∧ Relation.ReflTransGen (Needs s) k n

structure Sound (s : State) : Prop extends Unawaited s where
  makes : ∀ r ∈ s.refs, ∃ c, r.nextOutcome = .make c

def Unmade (history : List Happening) : Prop := ∀ one made, .stepped one made ∈ history → made = []

variable {s : State} {m middle after : Moment} {history more : List Happening} {e : Happening} {w : Waiter}
  {k n i : Nat} {c c' : Coroutine} {ending other : Ending} {r : Reference}

theorem Makes.single (makes : Makes s n c) (also : Makes s n c') : c = c' := by
  obtain ⟨r, there, makes⟩ := makes
  obtain ⟨r', there', also⟩ := also
  obtain rfl := Option.some.inj (there.symm.trans there')
  exact Outcome.make.inj (makes.symm.trans also)

theorem Makes.there (makes : Makes s n c) : s.refs[n]? ≠ none := by
  obtain ⟨r, there, -⟩ := makes
  rw [there]
  exact Option.some_ne_none r

theorem Comes.single (comes : Comes s c ending) (also : Comes s c other) : ending = other := by
  induction comes generalizing other with
  | done =>
    cases also
    rfl
  | missing absent _ ih =>
    cases also with
    | missing _ rest => exact ih rest
    | told makes => exact absurd absent makes.there
  | told makes _ _ first_ih rest_ih =>
    cases also with
    | missing absent => exact absurd absent makes.there
    | told makes' ends rest =>
      obtain rfl := makes.single makes'
      obtain rfl := first_ih ends
      exact rest_ih rest

theorem Ends.absent (absent : s.refs[n]? = none) : Ends s n noReference := .missing absent .done

theorem Ends.made (makes : Makes s n c) (comes : Comes s c ending) : Ends s n ending := .told makes comes .done

theorem Coroutine.Leads.comes (leads : c.Leads (Ends s) (.done ending)) : Comes s c ending := by
  generalize place : Coroutine.done ending = c' at leads
  induction leads with
  | here => exact place ▸ .done
  | on told _ ih =>
    cases told with
    | missing absent rest =>
      cases rest
      exact .missing absent (ih place)
    | told makes ends rest =>
      cases rest
      exact .told makes ends (ih place)

theorem Turn.length (turn : Turn m e after) (unmade : Unmade [e]) : after.state.refs.length = m.state.refs.length := by
  cases turn with
  | looked joins | awaited joins => exact joins.still.2.2
  | begun | woken | asked => rfl
  | ended => simp [State.setRef]
  | stepped ran made =>
    obtain rfl := unmade _ _ (List.mem_singleton_self _)
    rw [made, List.append_nil]

theorem Unmade.left (unmade : Unmade (history ++ more)) : Unmade history :=
  fun one made among => unmade one made (List.mem_append_left _ among)

theorem Unmade.right (unmade : Unmade (history ++ more)) : Unmade more :=
  fun one made among => unmade one made (List.mem_append_right _ among)

theorem Course.length (course : Course m history after) (unmade : Unmade history) :
    after.state.refs.length = m.state.refs.length := by
  induction course with
  | start => rfl
  | turn _ last ih => exact (last.length unmade.right).trans (ih unmade.left)

theorem Course.there_iff (course : Course m history after) (unmade : Unmade history) (n : Nat) :
    after.state.refs[n]? = none ↔ m.state.refs[n]? = none := by
  rw [List.getElem?_eq_none_iff, List.getElem?_eq_none_iff, course.length unmade]

theorem Course.called_once (course : Course (.rest s) history m) (unawaited : Unawaited s) (makes : Makes s n c) :
    outcomesIn n history = [] ∨ outcomesIn n history = [.make c] := by
  obtain ⟨r, there, first⟩ := makes
  obtain ⟨count, -, -, -, -, taken⟩ := course.calls there
  obtain ⟨refusals, made, shape, -⟩ := course.outcomes unawaited n
  cases count with
  | zero => exact .inl taken
  | succ count =>
    rw [taken, List.range_succ_eq_map, List.map_cons, Function.iterate_zero_apply, first] at shape
    cases refusals with
    | cons => cases shape
    | nil =>
      cases made with
      | none => cases shape
      | some c' =>
        refine .inr ?_
        rw [taken, List.range_succ_eq_map, List.map_cons, Function.iterate_zero_apply, first]
        exact congrArg _ (List.cons.inj shape).2

theorem Course.called_there (course : Course (.rest s) history m) (unmade : Unmade history)
    (called : outcome ∈ outcomesIn n history) : s.refs[n]? ≠ none := by
  induction course with
  | start => cases called
  | turn early last ih =>
    rw [outcomesIn_snoc, List.mem_append] at called
    rcases called with before | now
    · exact ih unmade.left before
    · have idle := last.idle_called (Option.mem_toList.mp now)
      intro absent
      rw [State.life?, (early.there_iff unmade.left n).mpr absent] at idle
      cases idle

theorem Course.called_makes (course : Course (.rest s) history m) (sound : Sound s) (unmade : Unmade history)
    (called : outcome ∈ outcomesIn n history) : ∃ c, Makes s n c ∧ outcome = .make c := by
  obtain ⟨r, there⟩ := Option.ne_none_iff_exists'.mp (course.called_there unmade called)
  obtain ⟨c, makes⟩ := sound.makes r (List.mem_of_getElem? there)
  have first : Makes s n c := ⟨r, there, makes⟩
  refine ⟨c, first, ?_⟩
  rcases course.called_once sound.toUnawaited first with never | once
  · rw [never] at called
    cases called
  · rw [once, List.mem_singleton] at called
    exact called

theorem Course.started_makes (course : Course (.rest s) history m) (sound : Sound s) (unmade : Unmade history)
    (started : .started n w c ∈ history) : Makes s n c := by
  obtain ⟨c', makes, same⟩ := course.called_makes sound unmade (List.mem_filterMap.mpr ⟨_, started, if_pos rfl⟩)
  cases same
  exact makes

theorem Course.unrefused (course : Course (.rest s) history m) (sound : Sound s) (unmade : Unmade history) :
    .refused n w message ∉ history := by
  intro refused
  obtain ⟨c, -, same⟩ := course.called_makes sound unmade (List.mem_filterMap.mpr ⟨_, refused, if_pos rfl⟩)
  cases same

theorem Turn.missing_absent (turn : Turn m (.missing n w) after) : m.state.refs[n]? = none := by
  obtain ⟨old, new, rest, shift, -, -⟩ := turn.shift
  cases shift with
  | missing absent => simpa [State.life?] using absent

theorem Course.missing_absent (course : Course m history after) (unmade : Unmade history)
    (missing : .missing n w ∈ history) : m.state.refs[n]? = none := by
  induction course with
  | start => cases missing
  | turn early last ih =>
    rcases List.mem_append.mp missing with before | now
    · exact ih unmade.left before
    · obtain rfl := List.mem_singleton.mp now
      exact (early.there_iff unmade.left n).mp last.missing_absent

theorem Course.heard (course : Course (.rest s) history m) (sound : Sound s) (unmade : Unmade history)
    (heard : Heard history n ending) : s.refs[n]? = none ∧ ending = noReference ∨ .ended n ending ∈ history := by
  obtain ⟨e, among, w, ends⟩ := heard
  cases e with
  | missing k w' =>
    obtain ⟨rfl, rfl, rfl⟩ : k = n ∧ w' = w ∧ noReference = ending := by simpa [Happening.ends?] using ends
    exact .inl ⟨course.missing_absent unmade among, rfl⟩
  | refused => exact absurd among (course.unrefused sound unmade)
  | told k w' last =>
    obtain ⟨rfl, rfl, rfl⟩ : k = n ∧ w' = w ∧ last = ending := by simpa [Happening.ends?] using ends
    have recorded := course.recorded sound.toUnawaited
    exact .inr ((recorded.ended k last).mpr (recorded.told k w' last among))
  | _ => cases ends

theorem Course.ended_ends (course : Course (.rest s) history m) (sound : Sound s) (unmade : Unmade history)
    (ended : .ended n ending ∈ history) : Ends s n ending := by
  induction course generalizing n ending with
  | start => cases ended
  | turn early last ih =>
    rcases List.mem_append.mp ended with before | now
    · exact ih unmade.left before
    · obtain rfl := List.mem_singleton.mp now
      obtain ⟨w, c, started, leads⟩ := last.ended_reached (early.traced sound.toUnawaited)
      refine .made (early.started_makes sound unmade.left started) (leads.mono fun k told heard => ?_).comes
      rcases early.heard sound unmade.left heard with ⟨absent, rfl⟩ | before
      · exact .absent absent
      · exact ih unmade.left before

theorem Course.heard_ends (course : Course (.rest s) history m) (sound : Sound s) (unmade : Unmade history)
    (heard : Heard history n ending) : Ends s n ending := by
  rcases course.heard sound unmade heard with ⟨absent, rfl⟩ | ended
  · exact .absent absent
  · exact course.ended_ends sound unmade ended

theorem Course.awaits_needs (course : Course (.rest s) history m) (sound : Sound s) (unmade : Unmade history)
    (awaits : Awaits history k n) : Needs s k n := by
  obtain ⟨w, c, next, started, leads⟩ := awaits
  exact ⟨c, next, course.started_makes sound unmade started, leads.mono fun _ _ => course.heard_ends sound unmade⟩

theorem opened_iff : opened i n history ≠ 0 ↔ .asked i n ∈ history := by
  rw [opened, ne_eq, List.sum_eq_zero_iff]
  constructor
  · intro some_open
    simp only [List.mem_map, forall_exists_index, and_imp, forall_apply_eq_imp_iff₂, not_forall] at some_open
    obtain ⟨e, among, opens⟩ := some_open
    cases e with
    | asked j k =>
      simp only [Happening.opens, Waiter.sits] at opens
      split at opens
      · split at opens
        · rename_i same at_slot
          exact same ▸ at_slot ▸ among
        · exact absurd rfl opens
      · exact absurd rfl opens
    | _ => exact absurd rfl opens
  · intro among none_open
    have closed := none_open 1 (List.mem_map.mpr ⟨_, among, by simp [Happening.opens, Waiter.sits]⟩)
    cases closed

theorem Course.asked (course : Course (.rest s) history m) (unawaited : Unawaited s) (looks : .looks i n ∈ m.posts) :
    .asked i n ∈ history := by
  have accounts := course.accounts i n
  have stands := tally_mem (f := Post.sits i n) looks
  rw [posts_rest unawaited, tally_zero] at accounts
  simp only [sits_looks, Waiter.sits, if_true] at stands
  exact opened_iff.mp (by omega)

theorem Course.started_wanted (course : Course (.rest s) history m) (sound : Sound s) (unmade : Unmade history)
    (started : .started n w c ∈ history) : Wanted s history n := by
  induction course generalizing n w c with
  | start => cases started
  | @turn history m e after early last ih =>
    rcases List.mem_append.mp started with before | now
    · obtain ⟨i, k, asked, needs⟩ := ih unmade.left before
      exact ⟨i, k, List.mem_append_left _ asked, needs⟩
    · obtain rfl := List.mem_singleton.mp now
      obtain ⟨old, new, rest, shift, whole, -⟩ := last.shift
      cases shift with
      | started =>
        have stands : w.before n ∈ m.posts := by simp [whole]
        cases w with
        | slot i => exact ⟨i, n, List.mem_append_left _ (early.asked sound.toUnawaited stands), .refl⟩
        | coroutine k next =>
          have traced := early.traced sound.toUnawaited
          obtain ⟨w', c', began, leads⟩ := traced.placed _ stands k (.await n next) rfl
          obtain ⟨i, first, asked, needs⟩ := ih unmade.left began
          exact ⟨i, first, List.mem_append_left _ asked,
            needs.tail (early.awaits_needs sound unmade.left ⟨w', c', next, began, leads⟩)⟩

theorem Course.wanted_started (course : Course (.rest s) history m) (sound : Sound s) (unmade : Unmade history)
    (ready : m.queue = []) (idle : m.going = none) (open_ended : NoCircle history) (wanted : Wanted s history n)
    (there : s.refs[n]? ≠ none) : ∃ w c, .started n w c ∈ history := by
  have recorded := course.recorded sound.toUnawaited
  obtain ⟨all_ended, all_answered⟩ := course.settled sound.toUnawaited ready idle open_ended
  have heard_started : ∀ {n ending}, s.refs[n]? ≠ none → Heard history n ending → ∃ w c, .started n w c ∈ history := by
    intro n ending there heard
    rcases course.heard sound unmade heard with ⟨absent, -⟩ | ended
    · exact absurd absent there
    · exact (recorded.started n).mpr (.inr ⟨ending, (recorded.ended n ending).mp ended⟩)
  obtain ⟨i, k, asked, needs⟩ := wanted
  induction needs with
  | refl =>
    have answered := opened_iff.mpr asked
    rw [← all_answered i k] at answered
    obtain ⟨e, among, ending, ends⟩ := closed_iff.mp answered
    exact heard_started there ⟨e, among, _, ends⟩
  | tail _ last ih =>
    obtain ⟨c, next, makes, reached⟩ := last
    obtain ⟨w, c', started⟩ := ih makes.there
    obtain rfl := makes.single (course.started_makes sound unmade started)
    obtain ⟨ending, ended⟩ := all_ended _ w c started
    obtain ⟨w', c', began, through⟩ := (course.traced sound.toUnawaited).through _ ending ended
    obtain rfl := makes.single (course.started_makes sound unmade began)
    obtain ⟨told, heard⟩ := reached.passed through (fun _ _ => course.heard_ends sound unmade) fun _ _ _ => Comes.single
    exact heard_started there heard

end DaoMapper.Cache
