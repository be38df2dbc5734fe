import DaoMapper.Proofs.Collision
import DaoMapper.Proofs.Inherited

-- Generated mappers in use, from the declaration that was scanned to the answers of
-- all calls on an instance.
namespace DaoMapper.Execution

open Code
open Interface (ClassId Hierarchy classesOf daoClass firstClass mapperClass receiver)
open Mapper

variable {h : Hierarchy} {d : Declaration} {fresh s : Session} {settings : Settings.Generator}

theorem start_read (started : Session.start h module outer = .ok fresh)
    (base : Quiet (renamed Text.normal module.body.base)) (quiet : ∀ f ∈ loadedFunctions module, QuietSignature f) :
    (∃ globals, Read h module fresh.module globals) ∧ fresh.heap = Heap.initial outer h.failure ∧ fresh.made = [] := by
  cases loaded : ends (load h module) (Heap.initial outer h.failure) with
  | mk result heap =>
    have mapped : result.map (fun m => (⟨m, heap, []⟩ : Session)) = .ok fresh := by
      rw [← started, Session.start]
      unfold ends at loaded
      rw [loaded]
    cases result with
    | error f => cases mapped
    | ok m =>
      cases mapped
      obtain ⟨rfl, read⟩ := load_read loaded base quiet
      exact ⟨read, rfl, rfl⟩

theorem new_made (made : fresh.new = (.ok k, s)) :
    ∃ n, ends (newMapper fresh.module) fresh.heap = (.ok n, s.heap) ∧ s.module = fresh.module ∧
      k = fresh.made.length ∧ s.made = fresh.made ++ [n] := by
  unfold Session.new Session.run at made
  cases ran : ends (newMapper fresh.module) fresh.heap with
  | mk result heap =>
    unfold ends at ran
    rw [ran] at made
    cases result with
    | error f => cases made
    | ok n =>
      cases made
      exact ⟨n, rfl, rfl, rfl, rfl⟩

theorem generated_quiet {d : Declaration} (done : (Generator.new d settings report).generate = (g, .ok module)) :
    Quiet (renamed Text.normal module.body.base) ∧ ∀ f ∈ loadedFunctions module, QuietSignature f := by
  refine ⟨?_, ?_⟩
  · rw [(Draft.Finished.module (generate_finished done))]
    exact quiet_typeExpr _ _
  · intro f member
    rw [loadedFunctions, generate_methods done] at member
    obtain ⟨original, there, rfl⟩ := List.mem_map.mp member
    rcases List.mem_cons.mp there with rfl | declared
    · exact quiet_init _ settings _
    · rw [← stands_functions d settings ⟨#[]⟩] at declared
      obtain ⟨x, _, rfl⟩ := List.mem_map.mp declared
      exact quiet_overriding _ _ _

structure Instance.Made (i : Instance) (cls : String) (settings : Settings.Generator) (xs : List Stand) (s : Session) :
    Prop where
  ready : ∀ x ∈ xs, Stand.Ready x i.module cls settings
  module : s.module = i.module
  number : i.number = 0
  context : i.contextName = inClass cls settings.contextAttribute
  narrows : i.narrows = true ↔ ∃ x ∈ xs, x.plan.keyed = true
  assigned : ∃ o, ends (execute i.module i.arguments ((inOrder xs).map (·.assignment cls)))
    { Heap.initial i.outer i.module.hierarchy.failure with mappers := [[(i.contextName, .context 0)]] } = (.ok o, s.heap)

theorem new_instance (scanned : h.scan target before = (after, .ok d))
    (generated : (Generator.new d settings report).generate = (g, .ok module))
    (started : Session.start h module outer = .ok fresh) (made : fresh.new = (.ok k, s))
    (apart : d.ReadApart module.body.name)
    (runtime : ∀ x ∈ runtimeNames, h.classAt? Draft.runtimeModule x.1 = none)
    (plain : ∀ p ∈ d.plans, p.name ≠ "__init__")
    (usable : ∀ p ∈ d.plans, ∃ c, p.Usable h module.body.name c)
    (unshadowed : ∀ p ∈ d.plans, p.Unshadowed module.body.name) :
    s.mapper? (some k) = some 0 ∧ (d.plans.map (·.name)).Nodup ∧ ∃ i : Instance,
      i.module.hierarchy = h ∧ i.outer = outer ∧ i.Made module.body.name settings (d.stands settings h) s := by
  obtain ⟨base, quiet⟩ := generated_quiet generated
  obtain ⟨⟨globals, read⟩, initial, unmade⟩ := start_read started base quiet
  obtain ⟨n, ran, same, rfl, latest⟩ := new_made made
  obtain ⟨methods, _⟩ := Interface.scan_methods scanned
  have names : (d.plans.map (·.name)).Nodup := by
    have listed := (d.plans_sublist.map (·.signature.name)).nodup methods
    rwa [List.map_map] at listed
  have distinct : ("__init__" :: d.plans.map (·.name)).Nodup := by
    refine List.nodup_cons.mpr ⟨?_, names⟩
    intro named
    obtain ⟨p, there, init⟩ := List.mem_map.mp named
    exact plain p there init
  have named : ∀ p ∈ d.plans, inClass module.body.name p.name = p.name := by
    intro p there
    obtain ⟨_, usable⟩ := usable p there
    exact usable.named
  have planned := stands_plans d settings h
  let i : Instance :=
    ⟨fresh.module, 0, inClass module.body.name settings.contextAttribute, outer, d.plans.any Plan.keyed⟩
  have all : g.draft.fields.all = (d.stands settings h).map fun x => x.plan.field x.field :=
    (generate_finished generated).fields.trans (stands_starts d settings h).symm
  have init := init_found generated read named distinct
  obtain ⟨rfl, o, assigned⟩ := init_runs (i := i) all init rfl rfl (by rw [initial]; rfl) ran
  refine ⟨by simp [Session.mapper?, latest, unmade], names, i, read.hierarchy, rfl, ?_⟩
  refine ⟨?_, same, rfl, rfl, ?_, o, ?_⟩
  · exact fun x member => stand_ready generated read named distinct apart unshadowed usable runtime member
  · simp only [i, ← planned, List.any_map, List.any_eq_true, Function.comp_def]
  · rw [read.hierarchy, ← initial]
    exact assigned

theorem made_sound {i : Instance} (made : i.Made cls settings (d.stands settings h) s) (spelled : d.Spelled settings cls) :
    i.Sound cls (d.stands settings h) s.heap := by
  have fields := stands_attributes d settings h cls
  have taken : ∀ x ∈ d.stands settings h, inClass cls x.field ∈ (d.fieldNames settings).map (inClass cls) := by
    intro x member
    rw [← fields]
    exact List.mem_map_of_mem member
  obtain ⟨o, assigned⟩ := made.assigned
  refine init_sound made.ready (fields ▸ spelled.fields) ?_ ?_ ?_ made.number rfl assigned
  · intro narrows x member same
    have shared := taken x member
    rw [← same, made.context] at shared
    obtain ⟨y, there, keyed⟩ := made.narrows.mp narrows
    exact spelled.context (List.any_eq_true.mpr ⟨y.plan, stand_planned there, keyed⟩) shared
  · intro x member
    obtain ⟨context, foreign⟩ := spelled.methods x.plan (stand_planned member)
    rw [made.context]
    exact ⟨context, fun y member' same => foreign (same ▸ taken y member')⟩
  · exact fun x member keyed => made.narrows.mpr ⟨x, member, keyed⟩

theorem made_serves {i : Instance} (made : i.Made cls settings (d.stands settings h) s)
    (names : (d.plans.map (·.name)).Nodup) (hierarchy : i.module.hierarchy = h) (spelled : d.Spelled settings cls) : s.Serves i.number d h cls i.outer := by
  intro calls asked
  have asked' : ∀ c ∈ calls, ∃ x ∈ d.stands settings h, x.plan.name = c.method := by
    intro c member
    obtain ⟨p, there, named⟩ := asked c member
    obtain ⟨x, among, rfl⟩ := plan_stands there settings h
    exact ⟨x, among, named⟩
  obtain ⟨stepped, ordered⟩ := history_stepped made.ready made.context made.module (made_sound made spelled) asked'
  exact stepped_meant hierarchy rfl names made.ready (fun t member => (stepped t member).1) ordered

-- Where all classes of DAOs can have one, no mapper means what it should but those whose
-- attributes are kept apart.
theorem made_spelled {i : Instance} (made : i.Made cls settings (d.stands settings h) s)
    (names : (d.plans.map (·.name)).Nodup) (hierarchy : i.module.hierarchy = h)
    (possible : ∀ p ∈ d.plans, ∀ c, h.find? p.method.implementation = some c → h.Instantiable c)
    (serves : s.Serves i.number d h cls i.outer) : d.Spelled settings cls := by
  subst hierarchy
  have planned := stands_plans d settings i.module.hierarchy
  have fields := (stands_attributes d settings i.module.hierarchy cls).symm
  have possible' : ∀ x ∈ d.stands settings i.module.hierarchy, i.module.hierarchy.Instantiable x.type :=
    fun x there => possible x.plan (stand_planned there) x.type (made.ready x there).found
  obtain ⟨o, assigned⟩ := made.assigned
  have recovers : ∀ c, i.module.hierarchy.Instantiable c →
      (Heap.initial i.outer i.module.hierarchy.failure).Recovers c := fun _ possible => possible.recovers
  have begun := init_begun made.ready made.number rfl rfl rfl recovers assigned
  refine ⟨?_, ?_, ?_⟩
  · rw [fields]
    have distinct : ((d.stands settings i.module.hierarchy).map (·.plan)).Nodup := planned ▸ names.of_map
    refine distinct.of_map.map_on fun x there y there' same => ?_
    exact List.inj_on_of_nodup_map distinct there there' (fields_kept planned made.ready made.module serves begun possible'
      made.context (fun x member keyed => made.narrows.mpr ⟨x, member, keyed⟩) there there' same)
  · intro keyed taken
    obtain ⟨p, there, kind⟩ := List.any_eq_true.mp keyed
    obtain ⟨x, among, rfl⟩ := plan_stands there settings i.module.hierarchy
    rw [fields] at taken
    obtain ⟨y, among', same⟩ := List.mem_map.mp taken
    exact context_kept planned made.ready made.module serves begun possible' made.context among kind y among'
      (made.context.trans same.symm)
  · intro p there
    obtain ⟨x, among, rfl⟩ := plan_stands there settings i.module.hierarchy
    obtain ⟨context, other⟩ := methods_kept planned made.ready made.module serves begun possible' x among
    rw [fields, ← made.context]
    refine ⟨context, fun taken => ?_⟩
    obtain ⟨y, among', same⟩ := List.mem_map.mp taken
    exact other y among' same.symm

def declared (h : Hierarchy) : Declaration :=
  match (h.scan (.type (h.classes.size - 1)) .empty).2 with
  | .ok d => d
  | .error _ => ⟨h.type 0, [], [], []⟩

def outermost : Context := ⟨.null, none, none, 0⟩

def shows (h : Hierarchy) (imports : List Import) (look : Session → Bool) : Bool :=
  match (Generator.new (declared h) .default .empty).generate.2 with
  | .error _ => false
  | .ok m =>
    match Session.start h { m with imports } outermost with
    | .error _ => false
    | .ok fresh =>
      match fresh.new with
      | (.ok _, s) => look s
      | (.error _, _) => false

theorem shown (scannable : (h.scan (.type (h.classes.size - 1)) .empty).2.isOk = true)
    (written : (Generator.new (declared h) .default .empty).generate.1.draft.imports.Written imports)
    (looked : shows h imports look = true) :
    ∃ after g module fresh k s, h.scan (.type (h.classes.size - 1)) .empty = (after, .ok (declared h)) ∧
      (Generator.new (declared h) .default .empty).generate = (g, .ok module) ∧
      Session.start h module outermost = .ok fresh ∧ fresh.new = (.ok k, s) ∧ look s = true := by
  have scanned : (h.scan (.type (h.classes.size - 1)) .empty).2 = .ok (declared h) := by
    unfold declared
    cases read : (h.scan (.type (h.classes.size - 1)) .empty).2 with
    | error f => simp [read, Except.isOk, Except.toBool] at scannable
    | ok d => rfl
  cases generated : (Generator.new (declared h) .default .empty).generate with
  | mk g result =>
    cases result with
    | error f => simp [shows, generated] at looked
    | ok module =>
      -- Sorting does not compute, but what it comes to is known.
      rw [generated] at written
      have block : module.imports = imports := (generate_imports generated).trans (Imports.statements_eq written)
      have whole : { module with imports } = module := by rw [← block]
      cases started : Session.start h module outermost with
      | error f => simp [shows, generated, whole, started] at looked
      | ok fresh =>
        cases made : fresh.new with
        | mk result s =>
          cases result with
          | error f => simp [shows, generated, whole, started, made] at looked
          | ok k =>
            simp only [shows, generated, whole, started, made] at looked
            exact ⟨_, g, module, fresh, k, s, Prod.ext rfl scanned, rfl, started, made, looked⟩

-- Methods of three kinds, one of which has its table before its keyspace.
def store : Hierarchy :=
  let dao : Interface.TypeForm := .cls firstClass
  let text : Interface.TypeForm := .cls 5
  let keyspace : Interface.ParameterDecl := ⟨"space", .positional, some (.annotated text [.marker .keyspace]), none⟩
  let table : Interface.ParameterDecl := ⟨"key", .positional, some (.annotated text [.marker .table]), none⟩
  classesOf [daoClass "Dao", mapperClass "Store" [
    ("daos", ⟨[receiver], some dao, none⟩),
    ("daos_in", ⟨[receiver, table, keyspace], some dao, none⟩),
    ("daos_later", ⟨[receiver, keyspace], some (.awaitable false [dao]), none⟩)]]

def storeImports : List Import := [⟨"collections.abc", ["Awaitable"]⟩,
  ⟨"daogen.runtime", ["DaoCache", "DaoCacheKey", "MapperContext"]⟩, ⟨"shop", ["Dao", "Store"]⟩]

-- Two methods whose fields are one: the class renames `__cache`, which is kept for the
-- first, into what is kept for the second.
def twins : Hierarchy := classesOf [daoClass "A", daoClass "B", mapperClass "M" [
  ("_", ⟨[receiver], some (.cls firstClass), none⟩), ("_MImpl_", ⟨[receiver], some (.cls (firstClass + 1)), none⟩)]]

def twinImports : List Import := [⟨"daogen.runtime", ["MapperContext"]⟩, ⟨"shop", ["A", "B", "M"]⟩]

def gives (s : Session) (method : String) (n : Nat) : Bool :=
  match (s.call 0 method [] []).1 with
  | .ok (.dao k) => k == n
  | _ => false

theorem gives_dao (given : gives s method n = true) : (s.call 0 method [] []).1 = .ok (.dao n) := by
  unfold gives at given
  split at given
  · rename_i result
    rw [result, beq_iff_eq.mp given]
  · cases given

end DaoMapper.Execution
