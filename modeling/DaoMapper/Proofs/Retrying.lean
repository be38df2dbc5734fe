import DaoMapper.Proofs.Skipping

-- Rendering again: a module that was made is remembered, and what a run that was given
-- up has left is what the next one starts from.
namespace DaoMapper.Mapper

namespace Generator

def outcome (g : Generator) : Except String String := g.render.2.mapError (·.problem.message)

def after (g : Generator) : Nat → Generator
  | 0 => g
  | n + 1 => g.render.1.after n

structure Steady (g : Generator) : Prop where
  outcome : ∀ n, (g.after n).outcome = g.outcome
  generated : ∀ n, (g.after (n + 1)).draft.generated = g.render.1.draft.generated
  skipped : ∀ n, (g.after (n + 1)).draft.skipped = g.render.1.draft.skipped
  fields : ∀ n, (g.after (n + 1)).draft.fields = g.render.1.draft.fields
  diagnostics : ∀ n, (g.after (n + 1)).draft.report.diagnostics = g.render.1.draft.report.diagnostics

theorem after_fixed {g : Generator} (fixed : g.render.1 = g) (n : Nat) : g.after n = g := by
  induction n with
  | zero => rfl
  | succ n ih => rw [after, fixed, ih]

theorem steady_of_second {g : Generator} (fixed : g.render.1.render.1 = g.render.1)
    (again : g.render.1.outcome = g.outcome) : g.Steady := by
  have stays (n : Nat) : g.after (n + 1) = g.render.1 := after_fixed fixed n
  exact {
    outcome := by
      intro n
      cases n with
      | zero => rfl
      | succ n => rw [stays, again]
    generated := fun n => by rw [stays]
    skipped := fun n => by rw [stays]
    fields := fun n => by rw [stays]
    diagnostics := fun n => by rw [stays] }

section render

variable {g : Generator}

theorem render_kept (kept : g.built = some m) : g.render = (g, .ok (g.text m)) := by
  simp only [render, generate, kept, Except.map]

theorem render_made (new : g.built = none) (ran : g.draft.run g.declaration g.settings = (next, .ok m)) :
    g.render = ({ g with draft := next, built := some m }, .ok (g.text m)) := by
  simp only [render, generate, new, ran, Except.map]
  rfl

theorem render_refused (new : g.built = none) (ran : g.draft.run g.declaration g.settings = (next, .error r)) :
    g.render = ({ g with draft := next }, .error r) := by
  simp only [render, generate, new, ran, Except.map]

theorem render_draft (new : g.built = none) : g.render.1.draft = (g.draft.run g.declaration g.settings).1 := by
  cases ran : g.draft.run g.declaration g.settings with
  | mk next result =>
    cases result with
    | error r => rw [render_refused new ran]
    | ok m => rw [render_made new ran]

end render

end Generator

namespace Draft

-- Methods that are accepted are listed, also when a clash stops the run at the last of them.
theorem methods_lists (d : Draft) (settings : Settings.Generator) (declared : List FactoryMethod) :
    ∃ more, (d.methods settings declared).1.generated = d.generated ++ more ∧
      (more = [] → ∀ m ∈ declared, m.accepted = false) := by
  induction declared generalizing d with
  | nil => exact ⟨[], by simp [Draft.methods], by simp⟩
  | cons m rest ih =>
    cases planned : m.plan with
    | error s =>
      obtain ⟨more, lists, none⟩ := ih (d.skip m s)
      refine ⟨more, by rw [methods_skip planned, lists]; rfl, fun empty => ?_⟩
      exact List.forall_mem_cons.mpr ⟨m.accepted_error planned, none empty⟩
    | ok p =>
      have listed : (d.add settings p).1.generated = d.generated ++ [p.name] := by
        unfold Draft.add
        dsimp only
        split
        · rfl
        · unfold importAwaitable
          split <;> rfl
      cases step : d.add settings p with
      | mk next result =>
        rw [step] at listed
        cases result with
        | error c => exact ⟨[p.name], by rw [methods_clash planned step, listed], by simp⟩
        | ok f =>
          obtain ⟨more, lists, _⟩ := ih next
          refine ⟨p.name :: more, ?_, by simp⟩
          rw [methods_add planned step, lists, listed]
          simp

variable {d last : Draft} {declaration : Declaration} {settings : Settings.Generator} {declared : List FactoryMethod}

theorem methods_stopped (stopped : d.methods settings declared = (last, .error c)) :
    ∃ m ∈ declared, m.accepted = true := by
  by_contra refused
  simp only [not_exists, not_and, Bool.not_eq_true] at refused
  have kept : declared.filter (·.accepted) = [] := List.filter_eq_nil_iff.mpr fun m there => by simp [refused m there]
  have same := (methods_alike (alike_refl d) settings declared).2
  rw [stopped, kept] at same
  cases same

theorem run_lists (free : settings.contextAttribute ∉ declaration.members)
    (needed : d.imports.need declaration.mapper = .ok first) (there : m ∈ declaration.methods)
    (accepted : m.accepted = true) : (d.run declaration settings).1.generated ≠ d.generated := by
  obtain ⟨more, lists, none⟩ := (d.begun first).methods_lists settings declaration.methods
  have longer : (d.begun first).generated ++ more ≠ d.generated := by
    intro same
    have empty : more = [] := by simpa [begun, importRuntime] using same
    rw [none empty m there] at accepted
    cases accepted
  cases ended : (d.begun first).methods settings declaration.methods with
  | mk last result =>
    rw [ended] at lists
    cases result with
    | error c => rwa [run_clash free needed ended, lists]
    | ok functions => rwa [run_made free needed ended, concluded_generated, lists]

end Draft

variable (d : Declaration) (settings : Settings.Generator) (report : Report)

-- The mapper alone is refused the next time, in the words of the first refusal.
def RefusedAgain (g : Generator) : Prop :=
  ∃ c, g.render.1.draft.imports.need g.declaration.mapper = .error c ∧
    g.outcome = .error (Refusal.clash g.declaration.mapper.qualname c).problem.message

theorem made_steady {g : Generator} (new : g.built = none) (made : g.outcome.isOk = true) : g.Steady := by
  cases ran : g.draft.run g.declaration g.settings with
  | mk next result =>
    cases result with
    | error r =>
      rw [Generator.outcome, Generator.render_refused new ran] at made
      cases made
    | ok m =>
      have first := Generator.render_made new ran
      have second : ({ g with draft := next, built := some m } : Generator).render = _ := Generator.render_kept rfl
      refine Generator.steady_of_second ?_ ?_
      · rw [first, second]
      · rw [Generator.outcome, Generator.outcome, first, second]
        rfl

theorem taken_steady {g : Generator} (new : g.built = none)
    (taken : g.settings.contextAttribute ∈ g.declaration.members) : g.Steady := by
  have first := Generator.render_refused new (Draft.run_taken taken g.draft)
  have fixed : g.render.1 = g := by rw [first]
  exact Generator.steady_of_second (by rw [fixed, fixed]) (by rw [fixed])

theorem again_steady {g : Generator} (new : g.built = none)
    (free : g.settings.contextAttribute ∉ g.declaration.members) (again : RefusedAgain g) : g.Steady := by
  obtain ⟨c, foreign, words⟩ := again
  cases ran : g.draft.run g.declaration g.settings with
  | mk next result =>
    cases result with
    | ok m =>
      rw [Generator.outcome, Generator.render_made new ran] at words
      cases words
    | error r =>
      have first := Generator.render_refused new ran
      rw [first] at foreign
      have second : ({ g with draft := next } : Generator).render = _ :=
        Generator.render_refused new (Draft.run_foreign free foreign)
      refine Generator.steady_of_second ?_ ?_
      · rw [first, second]
      · rw [words, first, Generator.outcome, second]
        rfl

-- Whatever else stops a run, it stops it at a method that is on the list by then, and
-- the next run puts its methods on the list once more.
theorem stopped_again {g : Generator} (new : g.built = none) (steady : g.Steady)
    (free : g.settings.contextAttribute ∉ g.declaration.members)
    (needed : g.draft.imports.need g.declaration.mapper = .ok imports)
    (ended : (g.draft.begun imports).methods g.settings g.declaration.methods = (last, .error c)) : RefusedAgain g := by
  obtain ⟨m, there, accepted⟩ := Draft.methods_stopped ended
  have first := Generator.render_refused new (Draft.run_clash free needed ended)
  cases needed' : last.imports.need g.declaration.mapper with
  | error c' =>
    refine ⟨c', by rw [first]; exact needed', ?_⟩
    have second : ({ g with draft := last } : Generator).render = _ :=
      Generator.render_refused new (Draft.run_foreign free needed')
    rw [← steady.outcome 1, Generator.after, Generator.after, first, Generator.outcome, second]
    rfl
  | ok imports' =>
    have longer := Draft.run_lists free needed' there accepted
    have same := steady.generated 1
    rw [Generator.after, Generator.after, Generator.after, first,
      Generator.render_draft (g := { g with draft := last }) new] at same
    exact absurd same longer

theorem steady_settled {g : Generator} (new : g.built = none) (steady : g.Steady) :
    g.outcome.isOk = true ∨ g.settings.contextAttribute ∈ g.declaration.members ∨ RefusedAgain g := by
  by_cases free : g.settings.contextAttribute ∈ g.declaration.members
  · exact .inr (.inl free)
  cases needed : g.draft.imports.need g.declaration.mapper with
  | error c =>
    have first := Generator.render_refused new (Draft.run_foreign free needed)
    refine .inr (.inr ⟨c, by rw [first]; exact needed, ?_⟩)
    rw [Generator.outcome, first]
    rfl
  | ok imports =>
    cases ended : (g.draft.begun imports).methods g.settings g.declaration.methods with
    | mk last result =>
      cases result with
      | ok functions =>
        refine .inl ?_
        rw [Generator.outcome, Generator.render_made new (Draft.run_made free needed ended)]
        rfl
      | error c => exact .inr (.inr (stopped_again new steady free needed ended))

theorem render_steady_iff : (Generator.new d settings report).Steady ↔
    (Generator.new d settings report).outcome.isOk = true ∨ settings.contextAttribute ∈ d.members ∨
      RefusedAgain (Generator.new d settings report) := by
  constructor
  · exact steady_settled rfl
  · rintro (made | taken | again)
    · exact made_steady rfl made
    · exact taken_steady rfl taken
    · by_cases free : settings.contextAttribute ∈ d.members
      · exact taken_steady rfl free
      · exact again_steady rfl free again

def rivals : Declaration where
  mapper := ⟨"shop.mappers", "RivalMapper", true⟩
  methods :=
    let ours : TypeRef := ⟨"shop.daos", "ProductDao", true⟩
    let theirs : TypeRef := ⟨"market.daos", "ProductDao", true⟩
    [⟨⟨"RivalMapper", "ours", [], ours, false⟩, ours⟩, ⟨⟨"RivalMapper", "theirs", [], theirs, false⟩, theirs⟩]
  members := ["ours", "theirs"]
  skipped := []

theorem rivals_unsteady :
    (((Generator.new rivals .default .empty).after 1).draft.generated = ["ours", "theirs"] ∧
      ((Generator.new rivals .default .empty).after 1).draft.fields.all.map Field.name = ["ours_cache", "theirs_cache"] ∧
      ((Generator.new rivals .default .empty).after 1).draft.report.diagnostics = []) ∧
    (((Generator.new rivals .default .empty).after 2).draft.generated = ["ours", "theirs", "ours", "theirs"] ∧
      ((Generator.new rivals .default .empty).after 2).draft.fields.all.map Field.name =
        ["ours_cache", "theirs_cache", "ours_cache_2", "theirs_cache_2"] ∧
      ((Generator.new rivals .default .empty).after 2).draft.report.diagnostics =
        [⟨false, "RivalMapper.ours", "Field 'ours_cache' is taken, using 'ours_cache_2'"⟩,
          ⟨false, "RivalMapper.theirs", "Field 'theirs_cache' is taken, using 'theirs_cache_2'"⟩]) ∧
    ¬(Generator.new rivals .default .empty).Steady := by
  have once : ((Generator.new rivals .default .empty).after 1).draft.generated = ["ours", "theirs"] := by decide +kernel
  have twice : ((Generator.new rivals .default .empty).after 2).draft.generated = ["ours", "theirs", "ours", "theirs"] := by
    decide +kernel
  refine ⟨⟨once, by decide +kernel, by decide +kernel⟩, ⟨twice, by decide +kernel, by decide +kernel⟩, fun steady => ?_⟩
  have same := steady.generated 1
  rw [twice, ← steady.generated 0, once] at same
  exact absurd same (by decide)

end DaoMapper.Mapper
