import DaoMapper.Proofs.History
import DaoMapper.Proofs.Resolution

-- What the calls on a mapper should be answered, each by itself and any two together.
namespace DaoMapper.Execution

open Code
open Interface (ClassId Hierarchy)
open Mapper

-- How a call for a key is answered: with a DAO of its class, built in the context that
-- the outer one is narrowed to; with the reference to one; or with the failure of a
-- construction, which leaves nothing behind unless it was awaited.
inductive Step.Answered (t : Step) (h : Hierarchy) (outer : Context) (p : Plan) (c : ClassId) (key : Cql.CacheKey) :
    Prop where
  | dao (given : t.result = .ok (.dao n)) (settled : p.isAsync = true → t.call.awaits = true)
      (built : t.after.daos[n]? = some ⟨c, context⟩) (placed : Placed outer key t.after.contexts context)
      (simple : p.keyed = false → context = 0)
  | reference (given : t.result = .ok (.reference r)) (async : p.isAsync = true) (raw : t.call.awaits = false)
  | raised (given : t.result = .error f) (sync : p.isAsync = false) (keyed : p.keyed = true)
      (raised : Raised h c t.before t.after f)
  | failed (given : t.result = .error f) (async : p.isAsync = true) (awaited : t.call.awaits = true)
      (kept : t.after.answer? true (.reference r) = some (.error f))
      (cause : t.before.answer? true (.reference r) = some (.error f) ∨ t.before.failing? h c = some f)

def Step.Level (t u : Step) (p : Plan) : Prop := p.isAsync = true → t.call.awaits = u.call.awaits

-- The answers of a history: each is right by itself, and any two that succeed are one
-- object exactly where method and key are the same. What is answered once is answered
-- so from then on.
structure Meant (d : Declaration) (h : Hierarchy) (cls : String) (outer : Context) (steps : List Step) : Prop where
  refused : ∀ t ∈ steps, ∀ p ∈ d.plans, p.name = t.call.method → ∀ f, t.call.key p cls = .error f →
    t.result = .error f ∧ t.after = t.before
  answered : ∀ t ∈ steps, ∀ p ∈ d.plans, p.name = t.call.method → ∀ c, h.find? p.method.implementation = some c →
    ∀ key, t.call.key p cls = .ok key → t.Answered h outer p c key
  same : steps.Pairwise fun t u => ∀ p ∈ d.plans, p.name = t.call.method → ∀ q ∈ d.plans, q.name = u.call.method →
    ∀ key key', t.call.key p cls = .ok key → u.call.key q cls = .ok key' →
      ∀ o o', t.result = .ok o → u.result = .ok o' → (o = o' ↔ p = q ∧ key = key' ∧ t.Level u p)
  again : steps.Pairwise fun t u => ∀ p ∈ d.plans, p.name = t.call.method → p.name = u.call.method →
    t.Level u p → ∀ key, t.call.key p cls = .ok key → u.call.key p cls = .ok key →
      (p.isAsync = true ∨ t.result.isOk = true) → u.result = t.result

def Session.Serves (s : Session) (mapper : Nat) (d : Declaration) (h : Hierarchy) (cls : String) (outer : Context) :
    Prop :=
  ∀ calls : List Call, (∀ c ∈ calls, ∃ p ∈ d.plans, p.name = c.method) → Meant d h cls outer (s.history mapper calls)

variable {i : Instance} {cls : String} {xs : List Stand} {x : Stand} {t u : Step}

theorem Meant.tail {d : Declaration} {steps : List Step} (meant : Meant d h cls outer (t :: steps)) :
    Meant d h cls outer steps :=
  ⟨fun u member => meant.refused u (List.mem_cons_of_mem _ member),
    fun u member => meant.answered u (List.mem_cons_of_mem _ member), (List.pairwise_cons.mp meant.same).2,
    (List.pairwise_cons.mp meant.again).2⟩

theorem settled_level (sound : i.Sound cls xs heap) (there : x ∈ xs) (level : x.plan.isAsync = true → awaits = awaits')
    (settled : i.settled cls heap x key awaits = some e) : i.settled cls heap x key awaits' = some e := by
  cases async : x.plan.isAsync with
  | true => rwa [← level async]
  | false =>
    obtain ⟨o, held, answered⟩ := Option.bind_eq_some_iff.mp settled
    have raw : i.settled cls heap x key false = some (.ok o) := settled_raw.mpr ⟨o, held, rfl⟩
    cases sound.ledger.right x there key false o raw with
    | dao _ _ _ =>
      cases answered
      rw [Instance.settled, held]
      rfl
    | reference async' _ _ =>
      rw [async] at async'
      cases async'

theorem settled_error (settled : i.settled cls heap x key awaits = some (.error f)) :
    ∃ r, i.held cls heap x key = some (.reference r) ∧ heap.answer? true (.reference r) = some (.error f) := by
  obtain ⟨o, held, answered⟩ := Option.bind_eq_some_iff.mp settled
  cases o with
  | reference r =>
    cases awaits with
    | false => cases answered
    | true => exact ⟨r, held, answered⟩
  | _ => cases answered

theorem key_whole (ready : Stand.Ready x m cls settings) (simple : x.plan.keyed = false)
    (accepted : x.plan.key cls arguments keywords = .ok key) : key = wholeKey := by
  obtain ⟨method, planned⟩ := ready.planned
  obtain rfl := (plan_ok planned).1
  exact key_bare x.plan cls ((plan_bare planned).mp simple) accepted

theorem step_answered (ready : Stand.Ready x i.module cls settings) (stepped : i.Stepped cls xs t) (there : x ∈ xs)
    (named : x.plan.name = t.call.method) (accepted : t.call.key x.plan cls = .ok key) :
    t.Answered i.module.hierarchy i.outer x.plan x.type key := by
  have settles := stepped.settles x there named key accepted
  cases outcome : t.result with
  | ok o =>
    rw [outcome] at settles
    cases settles with
    | answered known _ _ =>
      have answer := stepped.after.ledger.right x there key t.call.awaits o known
      generalize level : t.call.awaits = awaits at answer
      cases answer with
      | dao sync built placed =>
        refine .dao outcome (fun async => level.trans (sync async)) built placed ?_
        intro simple
        obtain rfl := key_whole ready simple accepted
        exact placed.same (by simp [wholeKey, Context.narrow?, Context.narrowed])
      | reference async _ _ => exact .reference outcome async level
  | error f =>
    rw [outcome] at settles
    cases settles with
    | raised sync keyed _ raised => exact .raised outcome sync keyed raised
    | answered known blamed _ =>
      obtain ⟨async, awaited, cause⟩ := blamed f rfl
      obtain ⟨r, held, kept⟩ := settled_error known
      refine .failed outcome async awaited kept (cause.imp_left fun before => ?_)
      -- The reference that had failed is the one that is held now.
      obtain ⟨r', held', kept'⟩ := settled_error before
      have still := stepped.later x there key false _ (settled_raw.mpr ⟨_, held', rfl⟩)
      obtain ⟨o, now, same⟩ := settled_raw.mp still
      cases same
      rw [held] at now
      cases now
      exact kept'

theorem step_settled (stepped : i.Stepped cls xs t) (there : x ∈ xs) (named : x.plan.name = t.call.method)
    (accepted : t.call.key x.plan cls = .ok key) (counts : x.plan.isAsync = true ∨ t.result.isOk = true) :
    i.settled cls t.after x key t.call.awaits = some t.result := by
  have settles := stepped.settles x there named key accepted
  generalize t.result = result at counts settles ⊢
  cases settles with
  | answered known _ _ => exact known
  | raised sync _ _ _ =>
    rcases counts with async | ok
    · rw [sync] at async
      cases async
    · cases ok

theorem steps_again (one : i.Stepped cls xs t) (two : i.Stepped cls xs u) (later : i.Later cls xs t.after u.before)
    (there : x ∈ xs) (named : x.plan.name = t.call.method) (named' : x.plan.name = u.call.method)
    (level : t.Level u x.plan) (accepted : t.call.key x.plan cls = .ok key) (accepted' : u.call.key x.plan cls = .ok key)
    (counts : x.plan.isAsync = true ∨ t.result.isOk = true) : u.result = t.result := by
  have known := later x there key _ _ (step_settled one there named accepted counts)
  exact settles_again two.later there (two.settles x there named' key accepted')
    (settled_level two.before there level known)

theorem steps_same {y : Stand} (one : i.Stepped cls xs t) (two : i.Stepped cls xs u)
    (later : i.Later cls xs t.after u.before) (there : x ∈ xs) (named : x.plan.name = t.call.method) (there' : y ∈ xs)
    (named' : y.plan.name = u.call.method) (accepted : t.call.key x.plan cls = .ok key)
    (accepted' : u.call.key y.plan cls = .ok key') (given : t.result = .ok o) (given' : u.result = .ok o') :
    o = o' ↔ x = y ∧ key = key' ∧ t.Level u x.plan := by
  have first := step_settled one there named accepted (.inr (by rw [given]; rfl))
  have known := two.later x there key _ _ (later x there key _ _ first)
  have known' := step_settled two there' named' accepted' (.inr (by rw [given']; rfl))
  rw [given] at known
  rw [given'] at known'
  constructor
  · rintro rfl
    obtain ⟨rfl, rfl⟩ := two.after.ledger.apart x there y there' _ _ _ _ o known known'
    refine ⟨rfl, rfl, fun async => ?_⟩
    have answer := two.after.ledger.right x there key _ o known
    have answer' := two.after.ledger.right x there key _ o known'
    generalize t.call.awaits = awaits at answer ⊢
    generalize u.call.awaits = awaits' at answer' ⊢
    cases answer with
    | dao sync _ _ =>
      cases answer' with
      | dao sync' _ _ => exact (sync async).trans (sync' async).symm
    | reference _ _ _ =>
      cases answer' with
      | reference _ _ _ => rfl
  · rintro ⟨rfl, rfl, level⟩
    have same := settled_level two.after there level known
    rw [known'] at same
    cases same
    rfl

theorem stepped_meant {h : Hierarchy} {d : Declaration} {steps : List Step} (hierarchy : i.module.hierarchy = h)
    (stands : xs = d.stands settings h) (names : (d.plans.map (·.name)).Nodup)
    (ready : ∀ x ∈ xs, Stand.Ready x i.module cls settings) (stepped : ∀ t ∈ steps, i.Stepped cls xs t)
    (ordered : steps.Pairwise fun t u => i.Later cls xs t.after u.before) : Meant d h cls i.outer steps := by
  subst hierarchy
  have plans : xs.map (·.plan) = d.plans := stands ▸ stands_plans d settings i.module.hierarchy
  have stand : ∀ p ∈ d.plans, ∃ x ∈ xs, x.plan = p := by
    intro p there
    rw [← plans] at there
    exact List.mem_map.mp there
  have alike : ∀ x ∈ xs, ∀ y ∈ xs, x.plan = y.plan → x = y := by
    have distinct : (xs.map (·.plan)).Nodup := plans ▸ names.of_map
    exact fun x there y there' same => List.inj_on_of_nodup_map distinct there there' same
  exact {
    refused := by
      intro t member p there named f refused
      obtain ⟨x, among, rfl⟩ := stand p there
      exact (stepped t member).refused x among named f refused
    answered := by
      intro t member p there named c found key accepted
      obtain ⟨x, among, rfl⟩ := stand p there
      have type : x.type = c := by
        have known := (ready x among).found
        rw [found] at known
        exact (Option.some.inj known).symm
      rw [← type]
      exact step_answered (ready x among) (stepped t member) among named accepted
    same := by
      refine ordered.imp_of_mem ?_
      intro t u member member' later p there named q there' named' key key' accepted accepted' o o' given given'
      obtain ⟨x, among, rfl⟩ := stand p there
      obtain ⟨y, among', rfl⟩ := stand q there'
      rw [steps_same (stepped t member) (stepped u member') later among named among' named' accepted accepted' given
        given']
      exact and_congr_left' ⟨congrArg _, alike x among y among'⟩
    again := by
      refine ordered.imp_of_mem ?_
      intro t u member member' later p there named named' level key accepted accepted' counts
      obtain ⟨x, among, rfl⟩ := stand p there
      exact steps_again (stepped t member) (stepped u member') later among named named' level accepted accepted' counts }

end DaoMapper.Execution
