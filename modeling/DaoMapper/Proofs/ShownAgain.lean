import DaoMapper.Proofs.Placeholders
import DaoMapper.Proofs.Verdicts

-- Settings that are shown and read again: as the spec of a manifest, what is shown of them
-- makes the same settings.
namespace DaoMapper.Settings

open Files (Path Tree)
open Verdict

def Unreferring (env : Environment) (text : List Char) : Prop :=
  ∀ name value, env.get? name = some value → ¬reference name.toList <:+: text

inductive Inert (env : Environment) : Value → Prop where
  | text (unreferring : Unreferring env s.toList) : Inert env (.text s)
  | bool (b : Bool) : Inert env (.bool b)
  | null : Inert env .null

structure Config.Inert (env : Environment) (c : Config) : Prop where
  logging : ∀ f ∈ c.logging.fields, Settings.Inert env f.2
  generator : ∀ f ∈ c.generator.fields, Settings.Inert env f.2

-- Settings that expand to themselves, where the environment does not have the last word.
structure Config.Steady (env : Environment) (c : Config) : Prop where
  logging : ∀ f ∈ c.logging.fields, fromEnvironment? env f.1 = none → expand env f.2 = f.2
  generator : ∀ f ∈ c.generator.fields, expand env f.2 = f.2

structure Shows (document : Value) (c : Config) : Prop where
  kind : under? "kind" document = some (.text "Config")
  spec : under? "spec" document = some c.toValue

section Expanding

variable {env : Environment} {text : List Char}

theorem expandChars_unreferring (unreferring : Unreferring env text) : expandChars env text = text := by
  refine expandChars_unset fun name names => ?_
  cases set : env.get? (String.ofList name) with
  | none => rfl
  | some value =>
    have inside : reference (String.ofList name).toList <:+: text := by
      rw [String.toList_ofList]
      exact names.inside
    exact absurd inside (unreferring _ value set)

theorem Inert.expand {v : Value} (inert : Inert env v) : expand env v = v := by
  cases inert with
  | text unreferring => rw [Settings.expand, expandText, expandChars_unreferring unreferring, String.ofList_toList]
  | bool b => rfl
  | null => rfl

theorem Config.Inert.steady {c : Config} (inert : c.Inert env) : c.Steady env :=
  ⟨fun f member _ => (inert.logging f member).expand, fun f member => (inert.generator f member).expand⟩

end Expanding

section Showing

variable {env : Environment} {c : Config}

def shownFields (fields : List (String × Value)) : List (Value × Value) := fields.map fun f => (.text f.1, f.2)

def sections (c : Config) : List (String × List (String × Value)) :=
  [("logging", c.logging.fields), ("generator", c.generator.fields)]

def shownSections (c : Config) : List (String × Value) := (sections c).map fun s => (s.1, .map (shownFields s.2))

theorem toValue_sections (c : Config) : c.toValue = .map (shownFields (shownSections c)) := rfl

theorem logging_section (c : Config) : ("logging", c.logging.fields) ∈ sections c := List.mem_cons_self

theorem generator_section (c : Config) : ("generator", c.generator.fields) ∈ sections c :=
  List.mem_cons_of_mem _ List.mem_cons_self

theorem section_distinct {s : String × List (String × Value)} (member : s ∈ sections c) : (s.2.map (·.1)).Nodup := by
  rcases List.mem_pair.mp member with rfl | rfl
  · exact (by decide : Logging.fieldNames.Nodup)
  · exact (by decide : Generator.fieldNames.Nodup)

theorem under?_shown (fields : List (String × Value)) (field : String) :
    under? field (.map (shownFields fields)) = valueOf? fields field := by
  induction fields with
  | nil => rfl
  | cons f rest ih =>
    simp only [under?, valueOf?, Value.find?, shownFields] at ih
    simp only [under?, valueOf?, Value.find?, shownFields, List.map_cons, List.find?_cons, Value.same]
    cases f.1 == field
    · exact ih
    · rfl

theorem under?_toValue {part : String} {fields : List (String × Value)} (member : (part, fields) ∈ sections c) :
    under? part c.toValue = some (.map (shownFields fields)) := by
  rw [toValue_sections, under?_shown]
  rcases List.mem_pair.mp member with same | same <;> cases same <;> rfl

theorem distinct_member (same : α → α → Bool) {all : List α} (member : a ∈ all.eraseDupsBy same) : a ∈ all := by
  match all with
  | [] => exact member
  | first :: rest =>
    rw [List.eraseDupsBy_cons] at member
    rcases List.mem_cons.mp member with rfl | later
    · exact List.mem_cons_self
    · exact List.mem_cons_of_mem _ (List.mem_of_mem_filter (distinct_member same later))
termination_by all.length
decreasing_by
  have := List.length_filter_le (fun b => decide (same b first = false)) rest
  simp only [List.length_cons]
  omega

theorem namesVerdict_known {known : List String} {entries : List (Value × Value)}
    (texts : ∀ e ∈ entries, ∃ name ∈ known, e.1 = .text name) : namesVerdict known (.map entries) = .fits := by
  have keyable : (entries.map (·.1)).all Value.keyable = true := by
    refine List.all_eq_true.mpr fun k member => ?_
    obtain ⟨e, there, rfl⟩ := List.mem_map.mp member
    obtain ⟨name, _, named⟩ := texts e there
    rw [named]
    rfl
  have familiar : (distinct (entries.map (·.1))).filter (fun v => !known.any fun name => v.same (.text name)) = [] := by
    refine List.filter_eq_nil_iff.mpr fun k member => ?_
    obtain ⟨e, there, rfl⟩ := List.mem_map.mp (distinct_member _ member)
    obtain ⟨name, among, named⟩ := texts e there
    have listed : known.any (fun name => e.1.same (.text name)) = true :=
      List.any_eq_true.mpr ⟨name, among, by simp [named, Value.same]⟩
    simp [listed]
  simp only [namesVerdict, items?, keyable, familiar, Bool.not_true, Bool.false_eq_true, if_false, List.isEmpty_nil,
    if_true]

theorem fields_shown (fields : List (String × Value)) (env : Environment) :
    namesVerdict (fields.map (·.1)) (expand env (.map (shownFields fields))) = .fits ∧
      shapeVerdict (expand env (.map (shownFields fields))) = .fits := by
  rw [expand, expandEntries_map, shownFields, List.map_map]
  refine ⟨namesVerdict_known fun e member => ?_, rfl⟩
  obtain ⟨f, there, rfl⟩ := List.mem_map.mp member
  exact ⟨f.1, List.mem_map_of_mem there, rfl⟩

-- Fields that were laid over the usual ones stay, whatever gives each of them again.
theorem laidOver_again {first? second? : String → Option Value} {usual fields : List (String × Value)}
    (layered : fields = laidOver first? usual) (again : ∀ f ∈ fields, second? f.1 = some f.2) :
    fields = laidOver second? usual := by
  rw [layered, laidOver, laidOver]
  refine List.map_congr_left fun u member => ?_
  have given := again (u.1, (first? u.1).getD u.2) (layered ▸ List.mem_map_of_mem member)
  rw [given, Option.getD_some]

theorem laidOver_given {given? : String → Option Value} {usual fields : List (String × Value)}
    (layered : fields = laidOver given? usual) {f : String × Value} (member : f ∈ fields) {v : Value}
    (given : given? f.1 = some v) : f.2 = v := by
  rw [layered] at member
  obtain ⟨u, _, rfl⟩ := List.mem_map.mp member
  rw [given, Option.getD_some]

theorem inPart?_shown {part : String} {fields : List (String × Value)} (member : (part, fields) ∈ sections c)
    {f : String × Value} (among : f ∈ fields) (env : Environment) :
    inPart? (expand env c.toValue) part f.1 = some (expand env f.2) := by
  rw [inPart?_expand, inPart?, under?_toValue member, Option.bind_some, under?_shown,
    valueOf?_member (section_distinct member) among, Option.map_some]

theorem orEmpty_shown {part : String} {fields : List (String × Value)} (member : (part, fields) ∈ sections c)
    (env : Environment) : orEmpty (under? part (expand env c.toValue)) = expand env (.map (shownFields fields)) := by
  rw [under?_expand, under?_toValue member, Option.map_some, orEmpty]
  rcases List.mem_pair.mp member with same | same <;> cases same <;> rfl

variable {v : Value} {said? : String → String → Option Value}

theorem logLayered_shown (log : LogLayered env said? c) (steady : c.Steady env) :
    LogLayered env (inPart? (expand env c.toValue)) c := by
  refine laidOver_again log fun f member => ?_
  rw [inPart?_shown (logging_section c) member]
  cases loud : fromEnvironment? env f.1 with
  | some v =>
    have own := laidOver_given log member (v := v) (by rw [loud, Option.some_or])
    rw [own, Option.some_or]
  | none => rw [steady.logging f member loud, Option.none_or]

theorem generatorLayered_shown (generator : GeneratorLayered said? c) (steady : c.Steady env) :
    GeneratorLayered (inPart? (expand env c.toValue)) c := by
  refine laidOver_again generator fun f member => ?_
  rw [inPart?_shown (generator_section c) member, steady.generator f member]

theorem logging_ext {l m : Logging} (same : l.fields = m.fields) : l = m := by
  cases l
  cases m
  simpa [Logging.fields] using same

theorem generator_ext {g h : Generator} (same : g.fields = h.fields) : g = h := by
  cases g
  cases h
  simpa [Generator.fields] using same

theorem build_ok_iff : (build env v).2 = .ok c ↔
    LogLayered env (inPart? v) c ∧ GeneratorLayered (inPart? v) c ∧ ∀ w ∈ partVerdicts env v, w.stops = false := by
  constructor
  · intro made
    obtain ⟨log, generator⟩ := build_layered made
    exact ⟨log, generator, build_passes made⟩
  · rintro ⟨log, generator, passes⟩
    have stopless : stop? (build env v).2 = none := by
      rw [build_stop]
      exact List.find?_eq_none.mpr fun w member => by simp [passes w member]
    cases made : (build env v).2 with
    | error f =>
      rw [made] at stopless
      cases f <;> cases stopless
    | ok built =>
      obtain ⟨ownLog, ownGenerator⟩ := build_layered made
      have sameLog : built.logging = c.logging := logging_ext (ownLog.trans log.symm)
      have sameGenerator : built.generator = c.generator := generator_ext (ownGenerator.trans generator.symm)
      cases built
      cases c
      subst sameLog sameGenerator
      rfl

theorem partVerdicts_shown (made : (build env v).2 = .ok c)
    (log : LogLayered env (inPart? (expand env c.toValue)) c)
    (generator : GeneratorLayered (inPart? (expand env c.toValue)) c) :
    ∀ w ∈ partVerdicts env (expand env c.toValue), w.stops = false := by
  have passes := build_passes made
  obtain ⟨firstLog, firstGenerator⟩ := build_layered made
  obtain ⟨level, format, file, color, stamp⟩ := logging_values firstLog
  obtain ⟨field, implementation, context, header⟩ := generator_values firstGenerator
  obtain ⟨level', format', file', color', stamp'⟩ := logging_values log
  obtain ⟨field', implementation', context', header'⟩ := generator_values generator
  have whole : namesVerdict ["logging", "generator"] (expand env c.toValue) = .fits ∧
    shapeVerdict (expand env c.toValue) = .fits := fields_shown (shownSections c) env
  have log : namesVerdict Logging.fieldNames (expand env (.map (shownFields c.logging.fields))) = .fits ∧
    shapeVerdict (expand env (.map (shownFields c.logging.fields))) = .fits := fields_shown _ env
  have generator : namesVerdict Generator.fieldNames (expand env (.map (shownFields c.generator.fields))) = .fits ∧
    shapeVerdict (expand env (.map (shownFields c.generator.fields))) = .fits := fields_shown _ env
  simp only [partVerdicts, loggingVerdicts, generatorVerdicts, List.cons_append, List.nil_append, List.forall_mem_cons,
    ← level, ← format, ← file, ← color, ← stamp, ← field, ← implementation, ← context, ← header] at passes
  simp only [partVerdicts, loggingVerdicts, generatorVerdicts, List.cons_append, List.nil_append, List.forall_mem_cons,
    ← level', ← format', ← file', ← color', ← stamp', ← field', ← implementation', ← context', ← header',
    orEmpty_shown (logging_section c), orEmpty_shown (generator_section c), whole, log, generator]
  obtain ⟨_, _, _, _, level, format, file, color, stamp, _, _, rest⟩ := passes
  exact ⟨rfl, rfl, rfl, rfl, level, format, file, color, stamp, rfl, rfl, rest⟩

theorem build_shown_iff (made : (build env v).2 = .ok c) :
    (build env (expand env c.toValue)).2 = .ok c ↔ c.Steady env := by
  obtain ⟨log, generator⟩ := build_layered made
  constructor
  · intro again
    obtain ⟨logAgain, generatorAgain⟩ := build_layered again
    refine ⟨fun f member quiet => ?_, fun f member => ?_⟩
    · refine (laidOver_given logAgain member ?_).symm
      rw [quiet, Option.none_or, inPart?_shown (logging_section c) member]
    · exact (laidOver_given generatorAgain member (inPart?_shown (generator_section c) member env)).symm
  · intro steady
    have logAgain := logLayered_shown log steady
    have generatorAgain := generatorLayered_shown generator steady
    exact build_ok_iff.mpr ⟨logAgain, generatorAgain, partVerdicts_shown made logAgain generatorAgain⟩

end Showing

section Rereading

variable {env : Environment} {tree : Tree} {p : Path} {c : Config} {d : Value}

theorem manifestPart_shows (shows : Shows d c) : manifestPart p d = .ok c.toValue := by
  obtain ⟨kind, spec⟩ := shows
  cases d with
  | map entries =>
    rw [under?] at kind spec
    rw [manifestPart, kind, spec]
    rfl
  | _ => cases kind

variable [Yaml.Library]

theorem readPart_shows (manifest : isManifest p = true) (told : document? tree p = some d) (shows : Shows d c) :
    readPart tree p = .ok (some c.toValue) := by
  rcases readPart_document tree p with ⟨untold, _⟩ | ⟨d', told', ⟨_, read⟩ | ⟨alone, _⟩⟩
  · rw [untold] at told
    cases told
  · rw [told'] at told
    cases told
    rw [read, manifestPart_shows shows]
    rfl
  · rw [manifest] at alone
    cases alone

theorem readConfig_built {part : Value} (held : readPart tree p = .ok (some part))
    (read : (readConfig env tree p).2 = .ok c) : (build env (expand env part)).2 = .ok c := by
  rw [readConfig_part held, Option.elim_some] at read
  cases made : (build env (expand env part)).2 with
  | error f =>
    rw [made] at read
    cases read
  | ok built =>
    rw [made] at read
    cases read
    rfl

theorem load_reads (s : Store) (there : tree.has p = true)
    (read : (readConfig env tree (p.absolute tree.current)).2 = .ok c) :
    (s.clear.load env tree (some p)).2.1 = .ok ⟨s.count, c⟩ := by
  have located : locate env tree (some p) = ([], .ok p) := by rw [locate, if_pos there]
  have fetched := fetch_clear s env tree (p.absolute tree.current)
  rw [read] at fetched
  have opened : (s.clear.loadFile env tree (some p)).2.1 = .ok ⟨s.count, c⟩ := by
    rw [Store.loadFile, located]
    exact fetched
  rw [Store.load]
  split
  · next failed =>
    rw [failed] at opened
    cases opened
  · exact opened

-- Expanded and built, read in a manifest, and loaded from one.
structure ShownAgain [Yaml.Library] (env : Environment) (c : Config) : Prop where
  built : (build env (expand env c.toValue)).2 = .ok c
  read : ∀ tree p d, isManifest p = true → document? tree p = some d → Shows d c → (readConfig env tree p).2 = .ok c
  loaded : ∀ (s : Store) tree p d, tree.has p = true → isManifest (p.absolute tree.current) = true →
    document? tree (p.absolute tree.current) = some d → Shows d c →
      (s.clear.load env tree (some p)).2.1 = .ok ⟨s.count, c⟩

theorem shown_again {part : Value} (held : readPart tree p = .ok (some part))
    (read : (readConfig env tree p).2 = .ok c) (inert : c.Inert env) : ShownAgain env c := by
  have built := (build_shown_iff (readConfig_built held read)).mpr inert.steady
  have reread (tree : Tree) (p : Path) (d : Value) (manifest : isManifest p = true)
      (told : document? tree p = some d) (shows : Shows d c) : (readConfig env tree p).2 = .ok c := by
    rw [readConfig_part (readPart_shows manifest told shows), Option.elim_some, built]
    rfl
  refine ⟨built, reread, fun s tree p d there manifest told shows => ?_⟩
  exact load_reads s there (reread tree _ d manifest told shows)

end Rereading

section Home

open scoped Yaml.Safe

theorem unreferring_of_entries {env : Environment} {text : List Char}
    (absent : ∀ e ∈ env.entries, ¬reference e.1.toList <:+: text) : Unreferring env text := by
  intro name value set inside
  obtain ⟨e, found, _⟩ := Option.map_eq_some_iff.mp set
  have named : e.1 = name := by simpa using List.find?_some found
  exact absent e (List.mem_of_find?_eq_some found) (named ▸ inside)

-- A file refers to a variable that is set and to one that is not, and a third one decides
-- on the level.
def homely : Environment := ⟨[("DAOGEN_LOG_LEVEL", "debug"), ("HOME", "/root")]⟩

def homeText : String :=
  "[logging]\noutput_file = \"$\x7bHOME\x7d/a.log\"\n[generator]\nheader_comment = \"$\x7bNOBODY\x7d\"\n"

def homeEntries : List (Value × Value) := [
  (.text "logging", .map [(.text "output_file", .text "$\x7bHOME\x7d/a.log")]),
  (.text "generator", .map [(.text "header_comment", .text "$\x7bNOBODY\x7d")])]

def homeSettings : Config := ⟨{ Logging.default with level := "DEBUG", outputFile := .text "/root/a.log" },
  { Generator.default with headerComment := .text "$\x7bNOBODY\x7d" }⟩

def homeManifest : String := "kind: Config\nspec:\n" ++
  "  logging:\n    level: DEBUG\n    format: structured\n    output_file: /root/a.log\n    use_color: true\n" ++
  "    include_timestamp: true\n  generator:\n    field_suffix: _cache\n    implementation_suffix: Impl\n" ++
  "    context_attribute: context\n    header_comment: $\x7bNOBODY\x7d\n"

def homeDocument : Value := .map [(.text "kind", .text "Config"), (.text "spec", homeSettings.toValue)]

def shownFile : Tree := ⟨[(["shown.yaml"], .file homeManifest)], []⟩

theorem home_part : readPart (soleFile homeText) solePlace = .ok (some (.map homeEntries)) := by
  have parsed : Toml.read? homeText = some homeEntries := by cbv
  rw [soleFile_part parsed]
  rfl

theorem home_read : (readConfig homely (soleFile homeText) solePlace).2 = .ok homeSettings := by
  have expanded : expand homely (.map homeEntries) =
    .map [(.text "logging", .map [(.text "output_file", .text "/root/a.log")]),
      (.text "generator", .map [(.text "header_comment", .text "$\x7bNOBODY\x7d")])] := by cbv
  rw [readConfig_part home_part, Option.elim_some, expanded]
  rfl

theorem home_inert : homeSettings.Inert homely := by
  have plain (s : String) (absent : ∀ e ∈ homely.entries, ¬reference e.1.toList <:+: s.toList) :
    Inert homely (.text s) := .text (unreferring_of_entries absent)
  constructor
  all_goals simp only [homeSettings, Logging.fields, Generator.fields, Logging.default, Generator.default,
    List.forall_mem_cons]
  · exact ⟨plain _ (by decide +kernel), plain _ (by decide +kernel), plain _ (by decide +kernel), .bool _, .bool _,
      List.forall_mem_nil _⟩
  · exact ⟨plain _ (by decide +kernel), plain _ (by decide +kernel), plain _ (by decide +kernel),
      plain _ (by decide +kernel), List.forall_mem_nil _⟩

-- The kernel takes the characters of the pieces in a fraction of the time and the memory
-- that it needs for those of the whole text.
theorem home_chars {a b c d : List Char}
    (pieces : homeManifest = String.ofList a ++ String.ofList b ++ String.ofList c ++ String.ofList d) :
    homeManifest.toList = a ++ b ++ c ++ d := by
  rw [pieces, String.toList_append, String.toList_append, String.toList_append]
  simp only [String.toList_ofList]

theorem home_document : (Yaml.Library.read homeManifest).toOption = some homeDocument := by
  have read : (Yaml.read homeManifest).toOption = some homeDocument := by
    rw [Yaml.read, home_chars rfl]
    decide +kernel
  rw [← read]
  cases told : Yaml.read homeManifest <;> simp [Yaml.Library.read, told, Except.mapError, Except.toOption]

theorem shownFile_document : document? shownFile ⟨1, ["shown.yaml"]⟩ = some homeDocument := by
  have kept : shownFile.read ⟨1, ["shown.yaml"]⟩ = .ok homeManifest := by rfl
  have manifest : isManifest ⟨1, ["shown.yaml"]⟩ = true := by decide +kernel
  rw [document?, kept, ← home_document, Except.toOption, Option.bind_some, if_pos manifest]

theorem home_shown_again :
    readPart (soleFile homeText) solePlace = .ok (some (.map homeEntries)) ∧
      (readConfig homely (soleFile homeText) solePlace).2 = .ok homeSettings ∧ homeSettings.Inert homely ∧
      (Store.empty.clear.load homely shownFile (some ⟨0, ["shown.yaml"]⟩)).2.1 = .ok ⟨0, homeSettings⟩ := by
  have again := shown_again home_part home_read home_inert
  have shows : Shows homeDocument homeSettings :=
    ⟨by simp [homeDocument, under?, Value.find?, Value.same], by simp [homeDocument, under?, Value.find?, Value.same]⟩
  exact ⟨home_part, home_read, home_inert,
    again.loaded .empty shownFile _ _ rfl (by decide +kernel) shownFile_document shows⟩

end Home

end DaoMapper.Settings
