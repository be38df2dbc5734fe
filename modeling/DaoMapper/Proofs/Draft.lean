import DaoMapper.Mapper.Generate
import DaoMapper.Proofs.FieldName
import DaoMapper.Proofs.Imports

-- What a run that ends well has made of a declaration: one function and one field
-- for each method whose parameters passed, in the order of declaration.
namespace DaoMapper.Mapper

open Code

def Declaration.plans (d : Declaration) : List Plan := d.methods.filterMap (·.plan.toOption)

def Plan.name (p : Plan) : String := p.method.signature.name

def Plan.suggestion (settings : Settings.Generator) (p : Plan) : String :=
  p.name ++ settings.fieldSuffix.plain

def Plan.keyed (p : Plan) : Bool := p.mode == .keyed

def Plan.isAsync (p : Plan) : Bool := p.method.signature.isAsync

def Declaration.fieldNames (d : Declaration) (settings : Settings.Generator) : List String :=
  uniqueFields (d.members ++ [settings.contextAttribute]) (d.plans.map (·.suggestion settings))

def Plan.ownImports (p : Plan) : List (String × String) :=
  if p.isAsync then [(Draft.awaitableModule, awaitableName)] else []

def Declaration.ownImports (d : Declaration) : List (String × String) :=
  (Draft.runtimeModule, "MapperContext") :: d.plans.flatMap Plan.ownImports ++
    ((if d.plans.any Plan.keyed then [cacheKeyName, "DaoCache"] else []) ++
      if d.plans.any fun p => !p.keyed && p.isAsync then ["AsyncLazyReference"] else []).map
        (Draft.runtimeModule, ·)

def Declaration.classes (d : Declaration) : List TypeRef :=
  d.mapper :: d.plans.flatMap fun p => Draft.namedTypes p.method

namespace Draft

structure Added (d : Draft) (settings : Settings.Generator) (p : Plan) (next : Draft) (f : Function) : Prop where
  function : f = p.function settings (uniqueField d.fields.taken (p.suggestion settings))
  taken : next.fields.taken = uniqueField d.fields.taken (p.suggestion settings) :: d.fields.taken
  fields : next.fields.all = d.fields.all ++ [p.field (uniqueField d.fields.taken (p.suggestion settings))]
  generated : next.generated = d.generated ++ [p.name]
  imports : Imports.Grown d.imports next.imports (namedTypes p.method) p.ownImports

theorem add_ok (added : d.add settings p = (next, .ok f)) : Added d settings p next f := by
  unfold add at added
  cases found : d.imports.needAll (namedTypes p.method) with
  | mk needed clash =>
    simp only [found] at added
    cases clash with
    | some c => simp at added
    | none =>
      simp only [Prod.mk.injEq, Except.ok.injEq] at added
      obtain ⟨rfl, rfl⟩ := added
      have grown := Imports.needAll_grown found
      unfold importAwaitable
      split
      · rename_i async
        refine ⟨rfl, rfl, rfl, rfl, ?_⟩
        have further := grown.trans (Imports.add_grown needed awaitableModule awaitableName)
        simpa [Plan.ownImports, Plan.isAsync, async] using further
      · rename_i sync
        refine ⟨rfl, rfl, rfl, rfl, ?_⟩
        simpa [Plan.ownImports, Plan.isAsync, sync] using grown

structure Grown (d : Draft) (settings : Settings.Generator) (plans : List Plan) (next : Draft)
    (functions : List Function) : Prop where
  functions : functions = List.zipWith (fun p name => p.function settings name) plans
    (uniqueFields d.fields.taken (plans.map (·.suggestion settings)))
  fields : next.fields.all = d.fields.all ++ List.zipWith Plan.field plans
    (uniqueFields d.fields.taken (plans.map (·.suggestion settings)))
  generated : next.generated = d.generated ++ plans.map (·.name)
  imports : Imports.Grown d.imports next.imports (plans.flatMap fun p => namedTypes p.method)
    (plans.flatMap Plan.ownImports)

theorem grown_cons (added : Added d settings p middle f) (grown : Grown middle settings plans next rest) :
    Grown d settings (p :: plans) next (f :: rest) where
  functions := by
    rw [grown.functions, added.function, added.taken]
    rfl
  fields := by
    rw [grown.fields, added.fields, added.taken]
    simp [uniqueFields]
  generated := by
    rw [grown.generated, added.generated]
    simp
  imports := added.imports.trans grown.imports

def skip (d : Draft) (m : FactoryMethod) (s : Skip) : Draft :=
  ({ d with report := d.report.error s.location s.cause.message } : Draft).passOver m s

theorem methods_skip {m : FactoryMethod} (refused : m.plan = .error s) (d : Draft) (settings : Settings.Generator)
    (rest : List FactoryMethod) : d.methods settings (m :: rest) = (d.skip m s).methods settings rest := by
  rw [Draft.methods, FactoryMethod.construct, refused]
  rfl

theorem methods_clash {d : Draft} {m : FactoryMethod} (planned : m.plan = .ok p) (step : d.add settings p = (next, .error c))
    (rest : List FactoryMethod) : d.methods settings (m :: rest) = (next, .error c) := by
  rw [Draft.methods, FactoryMethod.construct, planned]
  simp only [step]

theorem methods_add {d : Draft} {m : FactoryMethod} (planned : m.plan = .ok p) (step : d.add settings p = (next, .ok f))
    (rest : List FactoryMethod) : d.methods settings (m :: rest) =
      ((next.methods settings rest).1, (next.methods settings rest).2.map (f :: ·)) := by
  rw [Draft.methods, FactoryMethod.construct, planned]
  simp only [step]

theorem methods_ok (done : d.methods settings declared = (next, .ok functions)) :
    Grown d settings (declared.filterMap (·.plan.toOption)) next functions := by
  induction declared generalizing d functions with
  | nil =>
    simp only [Draft.methods, Prod.mk.injEq, Except.ok.injEq] at done
    obtain ⟨rfl, rfl⟩ := done
    exact ⟨by simp, by simp, by simp, .refl _⟩
  | cons m rest ih =>
    cases planned : m.plan with
    | error s =>
      rw [methods_skip planned] at done
      have grown := ih done
      rw [List.filterMap_cons_none (by simp [planned, Except.toOption])]
      exact ⟨grown.functions, grown.fields, grown.generated, grown.imports⟩
    | ok p =>
      rw [List.filterMap_cons_some (b := p) (by simp [planned, Except.toOption])]
      cases step : d.add settings p with
      | mk middle result =>
        cases result with
        | error c => simp [methods_clash planned step] at done
        | ok f =>
          rw [methods_add planned step] at done
          cases tail : middle.methods settings rest with
          | mk last more =>
            simp only [tail, Prod.mk.injEq] at done
            obtain ⟨rfl, mapped⟩ := done
            cases more with
            | error c => simp [Except.map] at mapped
            | ok functions =>
              simp only [Except.map, Except.ok.injEq] at mapped
              subst mapped
              exact grown_cons (add_ok step) (ih tail)

def fieldImports (fs : Fields) : List String :=
  (if fs.maps.isEmpty then [] else [cacheKeyName, "DaoCache"]) ++
    if fs.simple.any (·.isAsync) then ["AsyncLazyReference"] else []

theorem importFieldTypes_eq (d : Draft) : d.importFieldTypes = d.importRuntime (fieldImports d.fields) := by
  unfold importFieldTypes fieldImports
  cases maps : d.fields.maps.isEmpty with
  | true => cases lazy : d.fields.simple.any (·.isAsync) <;> simp [lazy, importRuntime]
  | false => cases lazy : d.fields.simple.any (·.isAsync) <;> simp [lazy, importRuntime]

def begun (d : Draft) (imports : Imports) : Draft := ({ d with imports } : Draft).importRuntime ["MapperContext"]

def concluded (d : Draft) (mapper : TypeRef) (settings : Settings.Generator) : Draft :=
  { d.importFieldTypes with
    report := d.report.log .info loggerName ("Generated " ++ className mapper settings ++ ": " ++
      toString d.generated.length ++ " method(s), " ++ toString d.skipped.length ++ " skipped") }

@[simp] theorem begun_skipped (d : Draft) (imports : Imports) : (d.begun imports).skipped = d.skipped := rfl

@[simp] theorem begun_report (d : Draft) (imports : Imports) : (d.begun imports).report = d.report := rfl

section concluded

variable (d : Draft) (mapper : TypeRef) (settings : Settings.Generator)

@[simp] theorem concluded_fields : (d.concluded mapper settings).fields = d.fields := by
  simp only [concluded, importFieldTypes_eq, importRuntime]

@[simp] theorem concluded_generated : (d.concluded mapper settings).generated = d.generated := by
  simp only [concluded, importFieldTypes_eq, importRuntime]

@[simp] theorem concluded_skipped : (d.concluded mapper settings).skipped = d.skipped := by
  simp only [concluded, importFieldTypes_eq, importRuntime]

@[simp] theorem concluded_diagnostics :
    (d.concluded mapper settings).report.diagnostics = d.report.diagnostics := rfl

end concluded

section run

variable {d last : Draft} {declaration : Declaration} {settings : Settings.Generator}

theorem run_taken (taken : settings.contextAttribute ∈ declaration.members) (d : Draft) :
    d.run declaration settings =
      (d, .error (.contextTaken declaration.mapper.qualname settings.contextAttribute)) := by
  rw [run, if_pos (by simpa using taken)]

theorem run_foreign (free : settings.contextAttribute ∉ declaration.members)
    (foreign : d.imports.need declaration.mapper = .error c) :
    d.run declaration settings = (d, .error (.clash declaration.mapper.qualname c)) := by
  rw [run, if_neg (by simpa using free), foreign]

theorem run_clash (free : settings.contextAttribute ∉ declaration.members)
    (needed : d.imports.need declaration.mapper = .ok first)
    (stopped : (d.begun first).methods settings declaration.methods = (last, .error c)) :
    d.run declaration settings = (last, .error (.clash declaration.mapper.qualname c)) := by
  rw [run, if_neg (by simpa using free), needed]
  dsimp only
  rw [← begun, stopped]

theorem run_made (free : settings.contextAttribute ∉ declaration.members)
    (needed : d.imports.need declaration.mapper = .ok first)
    (done : (d.begun first).methods settings declaration.methods = (last, .ok functions)) :
    d.run declaration settings = (last.concluded declaration.mapper settings,
      .ok (moduleOf declaration.mapper settings last.importFieldTypes functions)) := by
  rw [run, if_neg (by simpa using free), needed]
  dsimp only
  rw [← begun, done]
  simp [concluded, importFieldTypes_eq, importRuntime]

theorem run_ok (ran : d.run declaration settings = (next, .ok m)) :
    settings.contextAttribute ∉ declaration.members ∧ ∃ first last functions,
      d.imports.need declaration.mapper = .ok first ∧
      (d.begun first).methods settings declaration.methods = (last, .ok functions) ∧
      next = last.concluded declaration.mapper settings ∧
      m = moduleOf declaration.mapper settings last.importFieldTypes functions := by
  by_cases free : settings.contextAttribute ∈ declaration.members
  · rw [run_taken free] at ran
    cases ran
  · refine ⟨free, ?_⟩
    cases needed : d.imports.need declaration.mapper with
    | error c =>
      rw [run_foreign free needed] at ran
      cases ran
    | ok first =>
      cases done : (d.begun first).methods settings declaration.methods with
      | mk last result =>
        cases result with
        | error c =>
          rw [run_clash free needed done] at ran
          cases ran
        | ok functions =>
          rw [run_made free needed done] at ran
          cases ran
          exact ⟨first, last, functions, rfl, done, rfl, rfl⟩

end run

end Draft

end DaoMapper.Mapper
