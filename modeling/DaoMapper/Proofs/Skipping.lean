import DaoMapper.Proofs.Service

-- A method that is given up leaves its error and its name behind, and nothing that
-- its siblings could notice: without it the run comes to the same.
namespace DaoMapper.Mapper

open Code

def FactoryMethod.accepted (m : FactoryMethod) : Bool := m.plan.isOk

theorem FactoryMethod.accepted_ok (m : FactoryMethod) (planned : m.plan = .ok p) : m.accepted = true := by
  simp [accepted, planned, Except.isOk, Except.toBool]

theorem FactoryMethod.accepted_error (m : FactoryMethod) (refused : m.plan = .error s) : m.accepted = false := by
  simp [accepted, refused, Except.isOk, Except.toBool]

def Declaration.refused (d : Declaration) : List FactoryMethod := d.methods.filter (!·.accepted)

def Declaration.accepted (d : Declaration) : Declaration :=
  { d with methods := d.methods.filter (·.accepted) }

@[simp] theorem Declaration.accepted_methods (d : Declaration) :
    d.accepted.methods = d.methods.filter (·.accepted) := rfl

@[simp] theorem Declaration.accepted_mapper (d : Declaration) : d.accepted.mapper = d.mapper := rfl

theorem Declaration.accepted_refused (d : Declaration) : d.accepted.methods.filter (!·.accepted) = [] := by
  simp [List.filter_filter]

-- An error that stands for a method: it names a parameter of it and the rule that is broken.
def Blamed (m : FactoryMethod) (e : Diagnostic) : Prop :=
  ∃ p ∈ m.signature.parameters, ∃ cause, m.plan = .error ⟨m.signature.parameterLocation p, cause⟩ ∧
    e = ⟨true, m.signature.parameterLocation p, cause.message⟩

theorem collect_blames {o : Overrides} (refused : o.collect s parameters = .error skip) :
    ∃ p ∈ parameters, skip.location = s.parameterLocation p := by
  induction parameters generalizing o with
  | nil => cases refused
  | cons p rest ih =>
    unfold Overrides.collect at refused
    cases step : o.add p with
    | error cause =>
      simp only [step, Except.error.injEq] at refused
      exact ⟨p, List.mem_cons_self, refused ▸ rfl⟩
    | ok next =>
      simp only [step] at refused
      obtain ⟨q, member, located⟩ := ih refused
      exact ⟨q, List.mem_cons_of_mem p member, located⟩

theorem plan_blames {m : FactoryMethod} (refused : m.plan = .error skip) :
    ∃ p ∈ m.signature.parameters, skip.location = m.signature.parameterLocation p := by
  unfold FactoryMethod.plan at refused
  cases checked : m.signature.overrides with
  | error s =>
    simp only [checked, bind, Except.bind, Except.error.injEq] at refused
    exact refused ▸ collect_blames checked
  | ok o =>
    simp only [checked, bind, Except.bind] at refused
    split at refused
    · cases refused
    · split at refused
      · rename_i p hidden
        cases refused
        exact ⟨p, List.mem_of_find?_eq_some hidden, rfl⟩
      · cases refused

theorem plan_blamed {m : FactoryMethod} (refused : m.plan = .error skip) :
    Blamed m ⟨true, skip.location, skip.cause.message⟩ := by
  obtain ⟨p, member, located⟩ := plan_blames refused
  exact ⟨p, member, skip.cause, by rw [refused, ← located], by rw [located]⟩

namespace Report

@[simp] theorem error_diagnostics (r : Report) :
    (r.error location message).diagnostics = r.diagnostics ++ [⟨true, location, message⟩] := rfl

@[simp] theorem warn_diagnostics (r : Report) :
    (r.warn location message).diagnostics = r.diagnostics ++ [⟨false, location, message⟩] := rfl

def errors (r : Report) : List Diagnostic := Diagnostic.errors r.diagnostics

def warnings (r : Report) : List Diagnostic := Diagnostic.warnings r.diagnostics

@[simp] theorem log_errors (r : Report) : (r.log severity logger message).errors = r.errors := rfl

@[simp] theorem log_warnings (r : Report) : (r.log severity logger message).warnings = r.warnings := rfl

@[simp] theorem error_errors (r : Report) :
    (r.error location message).errors = r.errors ++ [⟨true, location, message⟩] := by
  simp [errors, Diagnostic.errors]

@[simp] theorem error_warnings (r : Report) : (r.error location message).warnings = r.warnings := by
  simp [warnings, Diagnostic.warnings]

@[simp] theorem warn_errors (r : Report) : (r.warn location message).errors = r.errors := by
  simp [errors, Diagnostic.errors]

@[simp] theorem warn_warnings (r : Report) :
    (r.warn location message).warnings = r.warnings ++ [⟨false, location, message⟩] := by
  simp [warnings, Diagnostic.warnings]

end Report

namespace Draft

structure Alike (d e : Draft) : Prop where
  fields : d.fields = e.fields
  imports : d.imports = e.imports
  generated : d.generated = e.generated
  warnings : d.report.warnings = e.report.warnings

theorem alike_refl (d : Draft) : Alike d d := ⟨rfl, rfl, rfl, rfl⟩

theorem skip_alike (alike : Alike d e) (m : FactoryMethod) (s : Skip) : Alike (d.skip m s) e where
  fields := alike.fields
  imports := alike.imports
  generated := alike.generated
  warnings := by simpa [skip, passOver] using alike.warnings

end Draft

theorem Plan.implement_warnings {p : Plan} {one two : Report} (same : one.warnings = two.warnings)
    (settings : Settings.Generator) (fs : Fields) :
    (p.implement settings fs one).1 = (p.implement settings fs two).1 ∧
      (p.implement settings fs one).2.1 = (p.implement settings fs two).2.1 ∧
      (p.implement settings fs one).2.2.warnings = (p.implement settings fs two).2.2.warnings := by
  unfold Plan.implement
  dsimp only
  split <;> simp [same]

theorem Plan.implement_errors (p : Plan) (settings : Settings.Generator) (fs : Fields) (r : Report) :
    (p.implement settings fs r).2.2.errors = r.errors := by
  unfold Plan.implement
  dsimp only
  split <;> simp

namespace Draft

theorem add_alike (alike : Alike d e) (settings : Settings.Generator) (p : Plan) :
    Alike (d.add settings p).1 (e.add settings p).1 ∧ (d.add settings p).2 = (e.add settings p).2 := by
  obtain ⟨function, fields, warnings⟩ := p.implement_warnings alike.warnings settings e.fields
  unfold add
  rw [alike.fields, alike.imports]
  dsimp only
  split
  · exact ⟨⟨fields, rfl, by rw [alike.generated], warnings⟩, rfl⟩
  · refine ⟨?_, congrArg Except.ok function⟩
    unfold importAwaitable
    split <;> exact ⟨fields, rfl, by rw [alike.generated], warnings⟩

theorem methods_alike (alike : Alike d e) (settings : Settings.Generator) (declared : List FactoryMethod) :
    Alike (d.methods settings declared).1 (e.methods settings (declared.filter (·.accepted))).1 ∧
      (d.methods settings declared).2 = (e.methods settings (declared.filter (·.accepted))).2 := by
  induction declared generalizing d e with
  | nil => exact ⟨alike, rfl⟩
  | cons m rest ih =>
    cases planned : m.plan with
    | error s =>
      rw [List.filter_cons_of_neg (by simp [m.accepted_error planned]), methods_skip planned]
      exact ih (skip_alike alike m s)
    | ok p =>
      rw [List.filter_cons_of_pos (m.accepted_ok planned)]
      obtain ⟨later, result⟩ := add_alike alike settings p
      cases one : d.add settings p with
      | mk d' first =>
        cases two : e.add settings p with
        | mk e' second =>
          rw [one, two] at later result
          dsimp only at later result
          subst result
          cases first with
          | error c =>
            rw [methods_clash planned one, methods_clash planned two]
            exact ⟨later, rfl⟩
          | ok f =>
            obtain ⟨last, functions⟩ := ih later
            rw [methods_add planned one, methods_add planned two, functions]
            exact ⟨last, rfl⟩

theorem importRuntime_alike (alike : Alike d e) (names : List String) :
    Alike (d.importRuntime names) (e.importRuntime names) where
  fields := alike.fields
  imports := by simp only [importRuntime, alike.imports]
  generated := alike.generated
  warnings := alike.warnings

theorem importFieldTypes_alike (alike : Alike d e) : Alike d.importFieldTypes e.importFieldTypes := by
  rw [importFieldTypes_eq, importFieldTypes_eq, alike.fields]
  exact importRuntime_alike alike _

theorem concluded_alike (alike : Alike d e) (mapper : TypeRef) (settings : Settings.Generator) :
    Alike (d.concluded mapper settings) (e.concluded mapper settings) where
  fields := by simpa using alike.fields
  imports := (importFieldTypes_alike alike).imports
  generated := by simpa using alike.generated
  warnings := by simpa [Report.warnings] using alike.warnings

theorem moduleOf_alike (alike : Alike d e) (mapper : TypeRef) (settings : Settings.Generator)
    (functions : List Function) : moduleOf mapper settings d functions = moduleOf mapper settings e functions := by
  unfold moduleOf
  rw [alike.fields, alike.imports]

theorem run_alike (alike : Alike d e) (declaration : Declaration) (settings : Settings.Generator) :
    Alike (d.run declaration settings).1 (e.run declaration.accepted settings).1 ∧
      (d.run declaration settings).2 = (e.run declaration.accepted settings).2 := by
  by_cases taken : settings.contextAttribute ∈ declaration.members
  · have taken' : settings.contextAttribute ∈ declaration.accepted.members := taken
    rw [run_taken taken, run_taken taken']
    exact ⟨alike, rfl⟩
  · have free : settings.contextAttribute ∉ declaration.accepted.members := taken
    cases needed : d.imports.need declaration.mapper with
    | error c =>
      have needed' : e.imports.need declaration.accepted.mapper = .error c := alike.imports ▸ needed
      rw [run_foreign taken needed, run_foreign free needed']
      exact ⟨alike, rfl⟩
    | ok imports =>
      have needed' : e.imports.need declaration.accepted.mapper = .ok imports := alike.imports ▸ needed
      have needing : Alike { d with imports } { e with imports } :=
        ⟨alike.fields, rfl, alike.generated, alike.warnings⟩
      have started : Alike (d.begun imports) (e.begun imports) := importRuntime_alike needing _
      have ended := methods_alike started settings declaration.methods
      cases one : (d.begun imports).methods settings declaration.methods with
      | mk d' first =>
        cases two : (e.begun imports).methods settings declaration.accepted.methods with
        | mk e' second =>
          obtain ⟨later, result⟩ : Alike d' e' ∧ first = second := by
            rwa [one, ← Declaration.accepted_methods, two] at ended
          subst result
          cases first with
          | error c =>
            rw [run_clash taken needed one, run_clash free needed' two, Declaration.accepted_mapper]
            exact ⟨later, rfl⟩
          | ok functions =>
            rw [run_made taken needed one, run_made free needed' two, Declaration.accepted_mapper]
            have module := moduleOf_alike (importFieldTypes_alike later) declaration.mapper settings functions
            exact ⟨concluded_alike later _ _, by rw [module]⟩

-- Their names, and one error for each, in the order of declaration.
structure Settled (d : Draft) (declared : List FactoryMethod) (next : Draft) : Prop where
  skipped : next.skipped = d.skipped ++ (declared.filter (!·.accepted)).map (·.signature.name)
  errors : ∃ reported, next.report.errors = d.report.errors ++ reported ∧
    List.Forall₂ Blamed (declared.filter (!·.accepted)) reported

theorem add_settled {d next : Draft} {p : Plan} (added : d.add settings p = (next, result)) :
    next.skipped = d.skipped ∧ next.report.errors = d.report.errors := by
  have errors := p.implement_errors settings d.fields d.report
  unfold add at added
  dsimp only at added
  split at added
  · cases added
    exact ⟨rfl, errors⟩
  · cases added
    unfold importAwaitable
    split <;> exact ⟨rfl, errors⟩

theorem methods_settled (done : d.methods settings declared = (next, .ok functions)) : Settled d declared next := by
  induction declared generalizing d functions with
  | nil =>
    cases done
    exact ⟨by simp, [], by simp, .nil⟩
  | cons m rest ih =>
    cases planned : m.plan with
    | error s =>
      rw [methods_skip planned] at done
      obtain ⟨skipped, reported, errors, blamed⟩ := ih done
      have given : (m :: rest).filter (!·.accepted) = m :: rest.filter (!·.accepted) :=
        List.filter_cons_of_pos (by simp [m.accepted_error planned])
      refine ⟨?_, ⟨true, s.location, s.cause.message⟩ :: reported, ?_, ?_⟩
      · rw [skipped, given]
        simp [skip, passOver]
      · rw [errors]
        simp [skip, passOver]
      · rw [given]
        exact .cons (plan_blamed planned) blamed
    | ok p =>
      have kept : (m :: rest).filter (!·.accepted) = rest.filter (!·.accepted) :=
        List.filter_cons_of_neg (by simp [m.accepted_ok planned])
      cases step : d.add settings p with
      | mk middle result =>
        obtain ⟨same, errors⟩ := add_settled step
        cases result with
        | error c =>
          rw [methods_clash planned step] at done
          cases done
        | ok f =>
          rw [methods_add planned step] at done
          cases tail : middle.methods settings rest with
          | mk last more =>
            simp only [tail, Prod.mk.injEq] at done
            obtain ⟨rfl, mapped⟩ := done
            cases more with
            | error c => cases mapped
            | ok functions =>
              obtain ⟨later, reported, added, blamed⟩ := ih tail
              exact ⟨by rw [later, same, kept], reported, by rw [added, errors], by rwa [kept]⟩

theorem run_settled (ran : d.run declaration settings = (next, .ok m)) : Settled d declaration.methods next := by
  obtain ⟨_, first, last, functions, _, done, rfl, _⟩ := run_ok ran
  obtain ⟨skipped, reported, errors, blamed⟩ := methods_settled done
  exact ⟨by simpa using skipped, reported, by simpa [Report.errors] using errors, blamed⟩

end Draft

theorem render_new (d : Declaration) (settings : Settings.Generator) (report : Report) :
    ((Generator.new d settings report).render).1.draft = ((Draft.initial d settings report).run d settings).1 ∧
      ((Generator.new d settings report).render).2 = ((Draft.initial d settings report).run d settings).2.map
        (Generator.new d settings report).text := by
  unfold Generator.render Generator.generate Generator.new
  dsimp only
  split <;> rename_i ran <;> rw [ran] <;> exact ⟨rfl, rfl⟩

theorem render_accepted {d : Declaration} {full kept : Generator}
    (whole : (Generator.new d settings report).render = (full, one))
    (rest : (Generator.new d.accepted settings report).render = (kept, two)) :
    one = two ∧ full.draft.generated = kept.draft.generated ∧ full.draft.fields = kept.draft.fields ∧
      full.draft.report.warnings = kept.draft.report.warnings ∧
      (one.isOk → kept.draft.report.errors = report.errors ∧
        ∃ reported, full.draft.report.errors = report.errors ++ reported ∧
          List.Forall₂ Blamed d.refused reported) := by
  obtain ⟨first, shown⟩ := render_new d settings report
  obtain ⟨second, shown'⟩ := render_new d.accepted settings report
  rw [whole] at first shown
  rw [rest] at second shown'
  obtain ⟨alike, same⟩ := Draft.run_alike (Draft.alike_refl (Draft.initial d settings report)) d settings
  have start : Draft.initial d.accepted settings report = Draft.initial d settings report := rfl
  dsimp only at first shown second shown'
  rw [start] at second shown'
  rw [← first, ← second] at alike
  refine ⟨?_, alike.generated, alike.fields, alike.warnings, ?_⟩
  · rw [shown, shown', same]
    rfl
  · intro rendered
    rw [shown] at rendered
    cases made : (Draft.initial d settings report).run d settings with
    | mk last result =>
      rw [made] at first rendered same
      cases result with
      | error r => cases rendered
      | ok m =>
        cases clean : (Draft.initial d settings report).run d.accepted settings with
        | mk last' result' =>
          rw [clean] at second same
          dsimp only at first second same
          subst same
          obtain ⟨_, reported, errors, blamed⟩ := Draft.run_settled made
          obtain ⟨_, none, errors', unblamed⟩ := Draft.run_settled clean
          refine ⟨?_, reported, first ▸ errors, blamed⟩
          rw [d.accepted_refused, List.forall₂_nil_left_iff] at unblamed
          rw [second, errors', unblamed, List.append_nil]
          rfl

theorem shop_accepted :
    ∃ full kept one two, (Generator.new shop .default .empty).render = (full, one) ∧
      (Generator.new shop.accepted .default .empty).render = (kept, two) ∧ one.isOk ∧ one = two ∧
      full.draft.generated = kept.draft.generated ∧ full.draft.fields = kept.draft.fields ∧
      full.draft.report.warnings = kept.draft.report.warnings ∧ kept.draft.report.errors = [] ∧
      full.draft.report.errors = [⟨true, "ShopMapper.labelled(label)",
        "Only parameters annotated with @DaoKeyspace or @DaoTable are allowed"⟩] := by
  have rendered : (Generator.new shop .default .empty).render.2.isOk ∧
      (Generator.new shop .default .empty).render.1.draft.report.errors = [⟨true, "ShopMapper.labelled(label)",
        "Only parameters annotated with @DaoKeyspace or @DaoTable are allowed"⟩] := by decide +kernel
  cases whole : (Generator.new shop .default .empty).render with
  | mk full one =>
    cases rest : (Generator.new shop.accepted .default .empty).render with
    | mk kept two =>
      rw [whole] at rendered
      obtain ⟨same, generated, fields, warnings, errors⟩ := render_accepted whole rest
      exact ⟨full, kept, one, two, rfl, rfl, rendered.1, same, generated, fields, warnings, (errors rendered.1).1,
        rendered.2⟩

end DaoMapper.Mapper
