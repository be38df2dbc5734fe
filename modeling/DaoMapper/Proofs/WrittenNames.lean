import DaoMapper.Proofs.Capture
import DaoMapper.Proofs.Clash
import DaoMapper.Proofs.Layers
import DaoMapper.Proofs.Spelling

-- Every name that a generated module writes, and where it has it from: which of them can be
-- no identifier, and which can be a keyword.
namespace DaoMapper.Text

theorem splitAt_piece {separator c : Char} {cs : List Char} (among : c ∈ cs) (other : c ≠ separator) :
    ∃ piece ∈ splitAt separator cs, c ∈ piece := by
  induction cs with
  | nil => cases among
  | cons d rest ih =>
    unfold splitAt
    by_cases parts : d = separator
    · rw [if_pos parts]
      rcases List.mem_cons.mp among with same | later
      · exact absurd (same.trans parts) other
      · obtain ⟨piece, there, inside⟩ := ih later
        exact ⟨piece, List.mem_cons_of_mem _ there, inside⟩
    · rw [if_neg parts, splitAt_cons]
      rcases List.mem_cons.mp among with same | later
      · exact ⟨_, List.mem_cons_self, same ▸ List.mem_cons_self⟩
      · obtain ⟨piece, there, inside⟩ := ih later
        rw [splitAt_cons] at there
        rcases List.mem_cons.mp there with first | behind
        · exact ⟨_, List.mem_cons_self, List.mem_cons_of_mem _ (first ▸ inside)⟩
        · exact ⟨piece, List.mem_cons_of_mem _ behind, inside⟩

theorem isName_joined {cs : List Char} (named : ∀ piece ∈ splitAt '.' cs, isName piece = true) :
    isName (cs.map fun c => if c = '.' then '_' else c) = true := by
  have underscore : isNameContinue '_' = true := by decide
  have first := named (cs.takeWhile (· ≠ '.')) (by rw [splitAt_cons]; exact List.mem_cons_self)
  have further : ∀ c ∈ cs, isNameContinue (if c = '.' then '_' else c) = true := by
    intro c among
    split
    · exact underscore
    · rename_i other
      obtain ⟨piece, there, inside⟩ := splitAt_piece among other
      exact List.all_eq_true.mp (isName_continues (named piece there)) c inside
  cases cs with
  | nil => cases first
  | cons c rest =>
    have letter : c ≠ '.' := by
      intro same
      rw [same, List.takeWhile_cons] at first
      cases first
    rw [List.takeWhile_cons, if_pos (by simpa using letter), isName, Bool.and_eq_true] at first
    rw [List.map_cons, isName, if_neg letter, first.1, Bool.true_and, List.all_map, List.all_eq_true]
    intro d behind
    exact further d (List.mem_cons_of_mem _ behind)

end DaoMapper.Text

namespace DaoMapper.Mapper

open Code
open Execution (functionNames isFreeName namesOf namesOfAll statementNames)
open Text (isKeyword isName isNameContinue)

theorem isFreeName_iff {name : String} :
    isFreeName name = true ↔ isName name.toList = true ∧ isKeyword name.toList = false := by
  rw [isFreeName, Bool.and_eq_true, Bool.not_eq_true']

-- Modules that are imported from are left out: their names are no names of this one.
def moduleNames (m : Module) : List String :=
  m.imports.flatMap (·.names) ++ m.body.name :: namesOf m.body.base ++ m.body.methods.flatMap functionNames

def TypeRef.words (t : TypeRef) : List String := t.importName :: t.path

def FactoryMethod.words (m : FactoryMethod) : List String :=
  m.signature.name :: m.signature.returns.words ++ m.implementation.words ++ m.signature.parameters.map (·.name)

def Declaration.words (d : Declaration) : List String := d.mapper.words ++ d.methods.flatMap FactoryMethod.words

def fixedNames : List String := [
  "__init__", "self", "context", "k", "key", "key_", "key__", "MapperContext", "DaoCacheKey", "DaoCache",
  "AsyncLazyReference", "Awaitable", "init", "init_async", "compute_if_absent", "compute_if_absent_async",
  "with_keyspace_and_table", "keyspace_id", "table_id", "str", "Identifier"]

theorem fixedNames_free : ∀ name ∈ fixedNames, isFreeName name = true := by decide

section sources

variable {good : String → Prop} {p : Plan} {m : FactoryMethod} {d : Declaration} {settings : Settings.Generator}

theorem fields_names (e : Expr) (parts : List String) :
    (∀ name ∈ namesOf (parts.foldl Expr.field e), good name) ↔
      (∀ name ∈ namesOf e, good name) ∧ ∀ part ∈ parts, good part := by
  induction parts generalizing e with
  | nil => simp
  | cons part rest ih =>
    rw [List.foldl_cons, ih, namesOf, List.forall_mem_cons, List.forall_mem_cons]
    exact ⟨fun ⟨⟨one, value⟩, more⟩ => ⟨value, one, more⟩, fun ⟨value, one, more⟩ => ⟨⟨one, value⟩, more⟩⟩

theorem typeExpr_names (t : TypeRef) : (∀ name ∈ namesOf (typeExpr t), good name) ↔ ∀ word ∈ t.words, good word := by
  rw [typeExpr_fields, fields_names, TypeRef.words, List.forall_mem_cons]
  simp [namesOf]

theorem parameterTypes_fixed (planned : m.plan = .ok p) :
    ∀ q ∈ m.signature.parameters, ∀ word ∈ q.type.words, word ∈ fixedNames := by
  have fixed : ∀ t ∈ roleTypes, ∀ word ∈ t.words, word ∈ fixedNames := by decide
  intro q member
  have types := (Overrides.overrides_ok (plan_ok planned).2.1).types q member
  exact fixed q.type (by simpa using types)

theorem keyVariable_fixed (o : Overrides) : keyVariable o ∈ fixedNames := by
  have fixed : ["key", "key_", "key__"] ⊆ fixedNames := by decide
  exact fixed (keyVariable_spelled o)

-- Whatever is known of its sources is known of every name in a body.
theorem body_names (own : ∀ name ∈ fixedNames, good name) (context : good settings.contextAttribute)
    (held : good field) (planned : m.plan = .ok p) (declared : ∀ word ∈ m.words, good word) :
    ∀ name ∈ (p.function settings field).body.flatMap statementNames, good name := by
  have key := own _ (keyVariable_fixed p.overrides)
  obtain ⟨rfl, accepted, _⟩ := plan_ok planned
  simp only [FactoryMethod.words, List.forall_mem_append, List.forall_mem_cons] at declared
  obtain ⟨⟨⟨_, _⟩, built⟩, parameters⟩ := declared
  have built := (typeExpr_names p.method.implementation).mpr built
  have arguments (role : Role) : ∀ name ∈ namesOf (argumentOrNone (p.overrides.get role)), good name := by
    cases named : p.overrides.get role with
    | none => simp [argumentOrNone, namesOf]
    | some name => simpa [argumentOrNone, namesOf] using parameters name (Overrides.overrides_declared accepted named)
  have keyspace := arguments .keyspace
  have table := arguments .table
  simp only [Overrides.get] at keyspace table
  simp only [fixedNames, List.forall_mem_cons] at own
  rw [p.function_body]
  cases p.keyed with
  | false => simp [simpleBody, statementNames, Expr.self, namesOf, held, own]
  | true =>
    cases p.isAsync <;>
      simp only [↓reduceIte, keyedBody, statementNames, Expr.self, namesOf, namesOfAll, narrowedContext, initName, computeName,
        cacheKeyName, List.flatMap_cons, List.flatMap_nil, List.forall_mem_append, List.forall_mem_cons, List.append_nil,
        List.not_mem_nil, false_imp_iff, implies_true, held, own, key, context, and_true, true_and, Bool.false_eq_true] <;>
      exact ⟨⟨keyspace, table⟩, built⟩

theorem function_names (own : ∀ name ∈ fixedNames, good name) (context : good settings.contextAttribute)
    (held : good field) (planned : m.plan = .ok p) (declared : ∀ word ∈ m.words, good word) :
    ∀ name ∈ functionNames (p.function settings field), good name := by
  have body := body_names own context held planned declared
  have types := parameterTypes_fixed planned
  obtain ⟨rfl, _, _⟩ := plan_ok planned
  simp only [FactoryMethod.words, List.forall_mem_append, List.forall_mem_cons, List.forall_mem_map] at declared
  obtain ⟨⟨⟨name, returns⟩, _⟩, parameters⟩ := declared
  have returns := (typeExpr_names p.method.signature.returns).mpr returns
  simp only [functionNames, List.forall_mem_append, List.forall_mem_cons]
  refine ⟨⟨⟨name, ?_⟩, body⟩, ?_⟩
  · simp only [Plan.function, overriding, List.flatMap_cons, List.forall_mem_append, List.forall_mem_cons]
    refine ⟨⟨own "self" (by decide), by simp⟩, ?_⟩
    intro word member
    obtain ⟨a, among, inside⟩ := List.mem_flatMap.mp member
    obtain ⟨q, there, rfl⟩ := List.mem_map.mp among
    rcases List.mem_cons.mp inside with same | type
    · exact same ▸ parameters q there
    · exact (typeExpr_names q.type).mpr (fun word inside => own word (types q there word inside)) word type
  · simp only [Plan.function, overriding, returnExpr]
    split
    · simp only [namesOf, List.forall_mem_append, List.forall_mem_singleton]
      exact ⟨own awaitableName (by decide), returns⟩
    · exact returns

theorem field_names (own : ∀ name ∈ fixedNames, good name) (held : good field) (planned : m.plan = .ok p)
    (declared : ∀ word ∈ m.words, good word) :
    good (p.field field).name ∧ ∀ name ∈ namesOf (p.field field).start, good name := by
  obtain ⟨rfl, _, _⟩ := plan_ok planned
  simp only [FactoryMethod.words, List.forall_mem_append] at declared
  have built := (typeExpr_names p.method.implementation).mpr declared.1.2
  refine ⟨by rwa [p.field_name field], ?_⟩
  cases keyed : p.keyed with
  | true =>
    rw [p.keyed_field field keyed]
    simpa [Field.start, namesOf, namesOfAll] using own "DaoCache" (by decide)
  | false =>
    rw [p.simple_field field keyed]
    simp only [fixedNames, List.forall_mem_cons] at own
    cases p.isAsync <;>
      simp only [Field.start, SimpleField.value, initName, namesOf, namesOfAll, ↓reduceIte, Bool.false_eq_true,
        List.nil_append, List.append_nil, List.forall_mem_append, List.forall_mem_cons, List.not_mem_nil, false_imp_iff,
        implies_true, own, and_true, true_and] <;>
      exact built

theorem init_names (own : ∀ name ∈ fixedNames, good name) (context : good settings.contextAttribute) {fs : Fields}
    (fields : ∀ f ∈ fs.all, good f.name ∧ ∀ name ∈ namesOf f.start, good name) :
    ∀ name ∈ functionNames (initFunction settings fs), good name := by
  have starts : ∀ s ∈ fs.starts, good s.1 ∧ ∀ name ∈ namesOf s.2, good name := by
    intro s member
    obtain ⟨f, there, rfl⟩ := List.mem_map.mp ((starts_perm fs.taken fs.all).mem_iff.mpr member)
    exact fields f there
  simp only [fixedNames, List.forall_mem_cons] at own
  rw [functionNames, initFunction_body]
  simp only [initFunction, List.flatMap_cons, List.flatMap_nil, Option.map_none, Option.map_some, Option.getD_none,
    Option.getD_some, namesOf, statementNames, Expr.self, List.forall_mem_append, List.forall_mem_cons, List.not_mem_nil,
    false_imp_iff, implies_true, own, context, and_true, true_and]
  intro name member
  obtain ⟨_, among, inside⟩ := List.mem_flatMap.mp member
  obtain ⟨s, there, rfl⟩ := List.mem_map.mp among
  obtain ⟨held, start⟩ := starts s there
  rcases List.mem_append.mp inside with target | value
  · simp only [namesOf, List.mem_cons, List.not_mem_nil, or_false] at target
    rcases target with rfl | rfl
    · exact held
    · exact own.2.1
  · exact start name value

theorem mem_zipWith {f : α → β → γ} {xs : List α} {ys : List β} (member : z ∈ List.zipWith f xs ys) :
    ∃ x ∈ xs, ∃ y ∈ ys, f x y = z := by
  rw [← List.map_uncurry_zip_eq_zipWith] at member
  obtain ⟨⟨x, y⟩, pair, rfl⟩ := List.mem_map.mp member
  obtain ⟨left, right⟩ := List.of_mem_zip pair
  exact ⟨x, left, y, right, rfl⟩

theorem method_words (there : m ∈ d.methods) : m.words ⊆ d.words :=
  fun _ among => List.mem_append_right _ (List.mem_flatMap.mpr ⟨m, there, among⟩)

theorem classes_words (named : t ∈ d.classes) : t.importName ∈ d.words ∨ t.importName ∈ fixedNames := by
  rcases List.mem_cons.mp named with rfl | inside
  · exact .inl (List.mem_append_left _ List.mem_cons_self)
  · obtain ⟨p, member, named⟩ := List.mem_flatMap.mp inside
    obtain ⟨m, there, planned⟩ := Declaration.plans_planned member
    have types := parameterTypes_fixed planned
    obtain ⟨rfl, _, _⟩ := plan_ok planned
    simp only [Draft.namedTypes, List.mem_cons, List.mem_map] at named
    rcases named with rfl | rfl | ⟨q, parameter, rfl⟩
    · exact .inl (method_words there (by simp [FactoryMethod.words, TypeRef.words]))
    · exact .inl (method_words there (by simp [FactoryMethod.words, TypeRef.words]))
    · exact .inr (types q parameter _ List.mem_cons_self)

theorem import_names (own : ∀ name ∈ fixedNames, good name) (declared : ∀ word ∈ d.words, good word)
    (done : (Generator.new d settings report).generate = (g, .ok module)) :
    ∀ name ∈ module.imports.flatMap (·.names), good name := by
  have runtime : ∀ x ∈ runtimeImports, x.2 ∈ fixedNames := by decide
  intro name member
  obtain ⟨i, written, named⟩ := List.mem_flatMap.mp member
  rcases imported_iff.mp ((imports_written done).mp ⟨i, written, rfl, named⟩) with needed | ⟨t, there, _, _, rfl⟩
  · exact own name (runtime _ (ownImports_known needed))
  · rcases classes_words there with word | fixed
    · exact declared _ word
    · exact own _ fixed

theorem module_names (own : ∀ name ∈ fixedNames, good name) (declared : ∀ word ∈ d.words, good word)
    (fields : ∀ name ∈ d.fieldNames settings, good name) (context : good settings.contextAttribute)
    (cls : good (className d.mapper settings))
    (done : (Generator.new d settings report).generate = (g, .ok module)) :
    ∀ name ∈ moduleNames module, good name := by
  have finished := generate_finished done
  have base : module.body.base = typeExpr d.mapper := by
    rw [finished.module]
    rfl
  have planned : ∀ p ∈ d.plans, ∃ m : FactoryMethod, m.plan = .ok p ∧ ∀ word ∈ m.words, good word := by
    intro p member
    obtain ⟨m, there, planned⟩ := Declaration.plans_planned member
    exact ⟨m, planned, fun word among => declared word (method_words there among)⟩
  simp only [moduleNames, List.forall_mem_append, List.forall_mem_cons]
  rw [generate_named done, base, typeExpr_names, generate_methods done, List.flatMap_cons, List.forall_mem_append]
  refine ⟨⟨import_names own declared done, cls, ?_⟩, ?_, ?_⟩
  · exact fun word among => declared word (List.mem_append_left _ among)
  · refine init_names own context fun f among => ?_
    rw [finished.fields] at among
    obtain ⟨p, member, field, held, rfl⟩ := mem_zipWith among
    obtain ⟨m, planned, words⟩ := planned p member
    exact field_names own (fields field held) planned words
  · intro name among
    obtain ⟨f, function, inside⟩ := List.mem_flatMap.mp among
    obtain ⟨p, member, field, held, rfl⟩ := mem_zipWith function
    obtain ⟨m, planned, words⟩ := planned p member
    exact function_names own context (fields field held) planned words name inside

theorem className_written (done : (Generator.new d settings report).generate = (g, .ok module)) :
    className d.mapper settings ∈ moduleNames module := by
  refine List.mem_append_left _ (List.mem_append_right _ ?_)
  rw [generate_named done]
  exact List.mem_cons_self

theorem context_written (done : (Generator.new d settings report).generate = (g, .ok module)) :
    settings.contextAttribute ∈ moduleNames module := by
  refine List.mem_append_right _ (List.mem_flatMap.mpr ⟨initFunction settings g.draft.fields, ?_, ?_⟩)
  · rw [generate_methods done]
    exact List.mem_cons_self
  · simp [functionNames, initFunction, statementNames, Expr.self, namesOf]

end sources

section settings

variable {d : Declaration} {settings : Settings.Generator}

theorem suffix_continues {first : Char} {suffix : Value} (fits : Settings.suffixFits first suffix = true) :
    suffix.plain.toList.all isNameContinue = true := by
  rw [Settings.suffixFits, isName, Bool.and_eq_true, Bool.and_eq_true] at fits
  exact fits.2.2

theorem className_isName (spelled : ∀ word ∈ d.mapper.words, isFreeName word = true)
    (fits : Settings.suffixFits 'X' settings.implementationSuffix = true) :
    isName (className d.mapper settings).toList = true := by
  have pieces : ∀ piece ∈ Text.splitAt '.' d.mapper.qualname.toList, isName piece = true := by
    intro piece among
    rw [Text.splitAt_cons] at among
    have word : String.ofList piece ∈ d.mapper.words := by
      rcases List.mem_cons.mp among with same | later
      · rw [same]
        exact List.mem_cons_self
      · exact List.mem_cons_of_mem _ (List.mem_map_of_mem later)
    have named := (isFreeName_iff.mp (spelled _ word)).1
    rwa [String.toList_ofList] at named
  have joined := Text.isName_joined pieces
  rw [className, String.toList_append, String.toList_ofList, Text.isName_append (Text.isName_nonempty joined), joined,
    suffix_continues fits]
  rfl

theorem fieldNames_isFreeName (spelled : ∀ word ∈ d.words, isFreeName word = true)
    (fits : Settings.suffixFits 'x' settings.fieldSuffix = true) :
    ∀ name ∈ d.fieldNames settings, isFreeName name = true := by
  refine (uniqueFields_isFreeName _ _).mpr fun suggestion among => isName_spellable ?_
  obtain ⟨p, member, rfl⟩ := List.mem_map.mp among
  obtain ⟨m, there, planned⟩ := Declaration.plans_planned member
  obtain ⟨rfl, _, _⟩ := plan_ok planned
  have free := spelled p.name (method_words there (by simp [FactoryMethod.words, Plan.name]))
  have named := (isFreeName_iff.mp free).1
  rw [Plan.suggestion, String.toList_append, Text.isName_append (Text.isName_nonempty named), named,
    suffix_continues fits]
  rfl

end settings

-- The names that the generator composes or takes from its settings, where the declared
-- names can be written: all of them are identifiers, and only two can be keywords.
theorem names_free_iff {d : Declaration} {settings : Settings.Generator}
    {fieldSuffix implementationSuffix contextAttribute headerComment : Value}
    (accepted : Settings.Generator.check fieldSuffix implementationSuffix contextAttribute headerComment = .ok settings)
    (spelled : ∀ word ∈ d.words, isFreeName word = true)
    (done : (Generator.new d settings report).generate = (g, .ok module)) :
    (∀ name ∈ moduleNames module, isName name.toList = true) ∧
      (∀ f ∈ g.draft.fields.all, isFreeName f.name = true) ∧
      (∀ p ∈ d.plans, isFreeName (keyVariable p.overrides) = true) ∧
      ((∀ name ∈ moduleNames module, isFreeName name = true) ↔
        isKeyword settings.contextAttribute.toList = false ∧
          isKeyword (className d.mapper settings).toList = false) := by
  obtain ⟨field, implementation, held, _, context, _, same⟩ := Settings.check_ok_iff.mp accepted
  subst same
  have fields : ∀ name ∈ d.fieldNames ⟨fieldSuffix, implementationSuffix, held, headerComment⟩,
      isFreeName name = true := fieldNames_isFreeName spelled field
  have cls : isName (className d.mapper ⟨fieldSuffix, implementationSuffix, held, headerComment⟩).toList = true :=
    className_isName (fun word among => spelled word (List.mem_append_left _ among)) implementation
  have named {name : String} (free : isFreeName name = true) : isName name.toList = true := (isFreeName_iff.mp free).1
  refine ⟨?_, ?_, ?_, ?_, ?_⟩
  · refine module_names ?_ ?_ ?_ context cls done
    · exact fun name fixed => named (fixedNames_free name fixed)
    · exact fun word declared => named (spelled word declared)
    · exact fun name held => named (fields name held)
  · intro f among
    rw [(generate_finished done).fields] at among
    obtain ⟨p, _, name, held, rfl⟩ := mem_zipWith among
    rw [p.field_name]
    exact fields name held
  · exact fun p _ => fixedNames_free _ (keyVariable_fixed p.overrides)
  · intro free
    have one := isFreeName_iff.mp (free _ (context_written done))
    have two := isFreeName_iff.mp (free _ (className_written done))
    exact ⟨one.2, two.2⟩
  · intro ⟨one, two⟩
    refine module_names fixedNames_free spelled fields ?_ ?_ done
    · exact isFreeName_iff.mpr ⟨context, one⟩
    · exact isFreeName_iff.mpr ⟨cls, two⟩

theorem shop_spelled : ∀ word ∈ shop.words, isFreeName word = true := by decide

theorem shop_names_free :
    ∃ g module, (Generator.new shop .default .empty).generate = (g, .ok module) ∧
      (∀ word ∈ shop.words, isFreeName word = true) ∧ ∀ name ∈ moduleNames module, isFreeName name = true := by
  obtain ⟨g, module, done⟩ := shop_generated
  have accepted : Settings.Generator.check (.text "_cache") (.text "Impl") (.text "context")
      (.text "Generated by daogen. Do not edit.") = .ok .default := by rfl
  refine ⟨g, module, done, shop_spelled, (names_free_iff accepted shop_spelled done).2.2.2.mpr ?_⟩
  decide

-- The shop under a name that the end of a keyword can be put to.
def shortShop : Declaration := { shop with mapper := ⟨"shop.mappers", "F", true⟩ }

theorem shortShop_spelled : ∀ word ∈ shortShop.words, isFreeName word = true := by
  have mapper : ∀ word ∈ shortShop.mapper.words, isFreeName word = true := by decide
  intro word among
  rcases List.mem_append.mp among with own | declared
  · exact mapper word own
  · exact shop_spelled word (List.mem_append_right _ declared)

-- Settings that are accepted, and a keyword where the context is kept; and a mapper whose
-- name becomes one when the suffix is put to it.
theorem keywords_written :
    (∃ settings, Settings.Generator.check (.text "_cache") (.text "Impl") (.text "class") (.text "shop") = .ok settings ∧
      (∀ word ∈ shop.words, isFreeName word = true) ∧
      ∃ g module, (Generator.new shop settings .empty).generate = (g, .ok module) ∧ "class" ∈ moduleNames module) ∧
    (∃ settings, Settings.Generator.check (.text "_cache") (.text "alse") (.text "context") (.text "shop") = .ok settings ∧
      (∀ word ∈ shortShop.words, isFreeName word = true) ∧
      ∃ g module, (Generator.new shortShop settings .empty).generate = (g, .ok module) ∧ module.body.name = "False") ∧
    isFreeName "class" = false ∧ isFreeName "False" = false := by
  refine ⟨⟨_, rfl, shop_spelled, ?_⟩, ⟨_, rfl, shortShop_spelled, ?_⟩, by decide, by decide⟩
  · obtain ⟨g, module, done⟩ := generate_of_isOk (by decide :
      (Generator.new shop ⟨.text "_cache", .text "Impl", "class", .text "shop"⟩ .empty).generate.2.isOk = true)
    exact ⟨g, module, done, context_written done⟩
  · obtain ⟨g, module, done⟩ := generate_of_isOk (by decide :
      (Generator.new shortShop ⟨.text "_cache", .text "alse", "context", .text "shop"⟩ .empty).generate.2.isOk = true)
    exact ⟨g, module, done, generate_named done⟩

end DaoMapper.Mapper
