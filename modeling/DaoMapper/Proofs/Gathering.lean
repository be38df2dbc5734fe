import DaoMapper.Proofs.InOrder
import DaoMapper.Proofs.Answered

-- Awaiting several references at once. Where nobody waits in a circle, each of them is
-- answered by the time the loop rests, and the result is that answer.
namespace DaoMapper.Cache

def NoCircle (history : List Happening) : Prop := ∀ n, ¬ Relation.TransGen (Awaits history) n n

variable {s : State} {m : Moment} {history more : List Happening} {e : Happening} {n k i : Nat} {wanted : List Nat}

theorem Awaits.mono (awaits : Awaits history n k) (more : List Happening) : Awaits (history ++ more) n k := by
  obtain ⟨w, c, next, started, leads⟩ := awaits
  exact ⟨w, c, next, List.mem_append_left _ started, leads.mono fun _ _ heard => heard.mono more⟩

theorem NoCircle.before (open_ended : NoCircle (history ++ more)) : NoCircle history := by
  intro n circle
  exact open_ended n (Relation.TransGen.mono (fun _ _ awaits => awaits.mono more) _ _ circle)

theorem opened_asksFor (i n : Nat) (wanted : List Nat) :
    opened i n (asksFor wanted) = if wanted[i]? = some n then 1 else 0 := by
  induction wanted using List.reverseRecOn with
  | nil => rfl
  | append_singleton wanted last ih =>
    rw [opened, asksFor] at ih ⊢
    rw [List.mapIdx_concat, List.map_append, List.sum_append, ih]
    simp only [List.map_singleton, List.sum_singleton, Happening.opens, Waiter.sits]
    rcases Nat.lt_trichotomy i wanted.length with inside | rfl | beyond
    · rw [List.getElem?_append_left inside]
      simp [(Nat.ne_of_lt inside).symm]
    · simp
    · rw [List.getElem?_eq_none (Nat.le_of_lt beyond), List.getElem?_eq_none (by simp; omega)]
      simp [Nat.ne_of_lt beyond]

theorem opened_inside (inside : Inside history) (i n : Nat) : opened i n history = 0 := by
  refine List.sum_eq_zero fun count among => ?_
  obtain ⟨e, there, rfl⟩ := List.mem_map.mp among
  cases e with
  | asked => exact nomatch inside _ there
  | _ => rfl

theorem closed_asksFor (i n : Nat) (wanted : List Nat) : closed i n (asksFor wanted) = 0 := by
  refine List.sum_eq_zero fun count among => ?_
  obtain ⟨e, there, rfl⟩ := List.mem_map.mp among
  obtain ⟨slot, bound, rfl⟩ := List.mem_mapIdx.mp there
  rfl

theorem closes_iff : e.closes i n ≠ 0 ↔ ∃ ending, e.ends? = some (n, .slot i, ending) := by
  rw [Happening.closes]
  rcases e.ends? with _ | ⟨k, w, ending⟩
  · simp
  · cases w <;> simp [Waiter.sits]

theorem closed_iff : closed i n history ≠ 0 ↔ ∃ e ∈ history, ∃ ending, e.ends? = some (n, .slot i, ending) := by
  rw [closed, ne_eq, List.sum_eq_zero_iff]
  simp only [List.mem_map, forall_exists_index, and_imp, forall_apply_eq_imp_iff₂, not_forall, exists_prop, ← closes_iff]

-- Where all asked for in a gathering are answered in it, the answer found for a slot is
-- the one to its await.
theorem answer_found (accounts : ∀ i n, closed i n more = if wanted[i]? = some n then 1 else 0)
    (wants : wanted[i]? = some n) :
    ∃ ending, ((answersIn more).find? (·.1 == i)).map (·.2) = some ending ∧
      ∃ e ∈ more, e.ends? = some (n, .slot i, ending) := by
  have answered : closed i n more ≠ 0 := by rw [accounts, if_pos wants]; exact Nat.one_ne_zero
  obtain ⟨e, among, ending, ends⟩ := closed_iff.mp answered
  have listed : (i, ending) ∈ answersIn more := List.mem_filterMap.mpr ⟨e, among, by rw [Happening.answer?, ends]⟩
  cases found : (answersIn more).find? (·.1 == i) with
  | none => simpa using List.find?_eq_none.mp found _ listed
  | some answer =>
    obtain ⟨j, other⟩ := answer
    obtain rfl : j = i := by simpa using List.find?_some found
    obtain ⟨e', among', answers⟩ := List.mem_filterMap.mp (List.mem_of_find?_eq_some found)
    refine ⟨other, rfl, e', among', ?_⟩
    rw [Happening.answer?] at answers
    split at answers
    · rename_i k slot last ends'
      obtain ⟨rfl, rfl⟩ := Prod.mk.inj (Option.some.inj answers)
      have closes : closed slot k more ≠ 0 := closed_iff.mpr ⟨e', among', _, ends'⟩
      rw [accounts] at closes
      split at closes
      · rename_i same
        rw [ends', Option.some.inj (same.symm.trans wants)]
      · exact absurd rfl closes
    · cases answers

theorem Course.gathered (course : Course (.rest s) history m) (unawaited : Unawaited s) (ready : m.queue = [])
    (idle : m.going = none) (wanted : List Nat) : ∃ more,
    Course m (asksFor wanted ++ more) (.rest (m.state.gather wanted).1) ∧ Inside more ∧
      (NoCircle (history ++ (asksFor wanted ++ more)) → ∀ i n, wanted[i]? = some n →
        ∃ ending, (m.state.gather wanted).2[i]? = some (some ending) ∧ ∃ e ∈ more, e.ends? = some (n, .slot i, ending)) := by
  have recorded := course.recorded unawaited
  obtain ⟨state, queue, going⟩ := m
  obtain rfl : queue = [] := ready
  obtain rfl : going = none := idle
  obtain ⟨more, gathering, inside, results⟩ := gather_course state wanted recorded.seated
  refine ⟨more, gathering, inside, ?_⟩
  intro open_ended i n wants
  have nobody_before := course.settles unawaited rfl rfl open_ended.before
  have nobody_after := (course.append gathering).settles unawaited rfl rfl open_ended
  have accounts : ∀ i n, closed i n more = if wanted[i]? = some n then 1 else 0 := by
    intro i n
    have balance := gathering.accounts i n
    rw [nobody_after] at balance
    change _ = _ + tally _ (Moment.posts ⟨state, [], none⟩) at balance
    rw [nobody_before] at balance
    simp only [tally_zero, add_zero] at balance
    have asked := opened_asksFor i n wanted
    have unasked := opened_inside inside i n
    have unanswered := closed_asksFor i n wanted
    simp only [closed, opened, List.map_append, List.sum_append] at *
    omega
  obtain ⟨ending, found, ended⟩ := answer_found accounts wants
  refine ⟨ending, ?_, ended⟩
  rw [results, List.getElem?_mapIdx, wants, Option.map_some, found]

end DaoMapper.Cache
