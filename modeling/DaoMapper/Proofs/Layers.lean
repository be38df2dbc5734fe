import DaoMapper.Settings.Store
import DaoMapper.Yaml.Safe
import Mathlib

-- Settings in layers: what a variable of the environment gives, else what the file says,
-- else the usual value; and where the layers are left out.
namespace DaoMapper.Settings

open Files (Path Tree)

def under? (key : String) : Value → Option Value
  | .map entries => Value.find? entries key
  | _ => none

def inPart? (v : Value) (part field : String) : Option Value := (under? part v).bind (under? field)

def fromEnvironment? (env : Environment) (field : String) : Option Value :=
  if field = "level" then (env.given? "DAOGEN_LOG_LEVEL").map fun s => .text (Text.upperText s)
  else if field = "format" then (env.given? "DAOGEN_LOG_FORMAT").map fun s => .text (Text.lowerText s)
  else if field = "output_file" then (env.given? "DAOGEN_LOG_FILE").map .text
  else if field = "use_color" then ((env.given? "DAOGEN_LOG_COLOR").bind readSwitch?).map .bool
  else none

structure Source where
  path : Path
  document : Value

namespace Source

def table? (f : Source) : Option Value := (under? "tool" f.document).bind (under? "daogen")

-- In a manifest's spec, in the table, or all over a file of any other name without one.
def settings? (f : Source) : Option Value :=
  if isManifest f.path then under? "spec" f.document
  else f.table?.or (if f.path.name = projectFile then none else some f.document)

def said? (f : Source) (env : Environment) (part field : String) : Option Value :=
  (f.settings?.bind fun v => inPart? v part field).map (expand env)

-- An empty table counts as none, an empty manifest or file of settings alone does not.
def Merged (f : Source) : Prop :=
  isManifest f.path ∨ match f.table? with
    | some part => part.given
    | none => f.path.name ≠ projectFile

end Source

def said? (env : Environment) (f : Option Source) (part field : String) : Option Value :=
  f.bind fun f => f.said? env part field

def document? [Yaml.Library] (tree : Tree) (p : Path) : Option Value :=
  (tree.read p).toOption.bind fun text =>
    if isManifest p then (Yaml.Library.read text).toOption else (Toml.read? text).map .map

def source? [Yaml.Library] (env : Environment) (tree : Tree) (wanted : Option Path) : Option Source :=
  (locate env tree wanted).2.toOption.bind fun p =>
    let p := p.absolute tree.current
    (document? tree p).map fun document => ⟨p, document⟩

def laidOver (given? : String → Option Value) (fields : List (String × Value)) : List (String × Value) :=
  fields.map fun f => (f.1, (given? f.1).getD f.2)

def LogLayered (env : Environment) (said? : String → String → Option Value) (c : Config) : Prop :=
  c.logging.fields =
    laidOver (fun field => (fromEnvironment? env field).or (said? "logging" field)) Logging.default.fields

def GeneratorLayered (said? : String → String → Option Value) (c : Config) : Prop :=
  c.generator.fields = laidOver (said? "generator") Generator.default.fields

section Names

theorem same_text {v : Value} {s : String} (equal : v.same (.text s) = true) : v = .text s := by
  cases v <;> simp [Value.same, Value.whole?, Value.floatBits] at equal
  rw [equal]

theorem represented (same : α → α → Bool) {all : List α} {a : α} (member : a ∈ all) :
    ∃ b ∈ all.eraseDupsBy same, a = b ∨ same a b = true := by
  match all with
  | first :: rest =>
    rw [List.eraseDupsBy_cons]
    rcases List.mem_cons.mp member with rfl | later
    · exact ⟨a, List.mem_cons_self, .inl rfl⟩
    · by_cases repeated : same a first = true
      · exact ⟨first, List.mem_cons_self, .inr repeated⟩
      · have stays : a ∈ rest.filter fun b => decide (same b first = false) :=
          List.mem_filter.mpr ⟨later, by simpa using repeated⟩
        have shorter := List.length_filter_le (fun b => decide (same b first = false)) rest
        obtain ⟨b, there, equal⟩ := represented same stays
        exact ⟨b, List.mem_cons_of_mem _ there, equal⟩
termination_by all.length
decreasing_by simp only [List.length_cons]; omega

theorem checkNames_known {component what : String} {known : List String} {entries : List (Value × Value)}
    (accepted : checkNames component what known (.map entries) = .ok ()) :
    ∀ e ∈ entries, ∃ name ∈ known, e.1 = .text name := by
  intro e member
  have none_unknown :
      ((distinct (entries.map (·.1))).filter fun v => !known.any fun name => v.same (.text name)) = [] := by
    simp only [checkNames, items?] at accepted
    split at accepted
    · cases accepted
    · split at accepted
      · split at accepted <;> cases accepted
      · simp_all
  obtain ⟨v, there, equal⟩ := represented Value.same (List.mem_map_of_mem (f := (·.1)) member)
  have listed := List.filter_eq_nil_iff.mp none_unknown v there
  simp only [Bool.not_eq_true, Bool.not_eq_false', List.any_eq_true] at listed
  obtain ⟨name, among, named⟩ := listed
  obtain rfl := same_text named
  refine ⟨name, among, ?_⟩
  rcases equal with here | same
  · exact here
  · exact same_text same

end Names

section Lookup

variable {env : Environment} {values : List (String × Value)}

def valueOf? (values : List (String × Value)) (name : String) : Option Value :=
  (values.find? (·.1 == name)).map (·.2)

theorem valueOf?_member {f : String × Value} (distinct : (values.map (·.1)).Nodup) (member : f ∈ values) :
    valueOf? values f.1 = some f.2 := by
  induction values with
  | nil => cases member
  | cons first rest ih =>
    obtain ⟨apart, others⟩ := List.nodup_cons.mp distinct
    rcases List.mem_cons.mp member with rfl | later
    · simp [valueOf?]
    · have other : first.1 ≠ f.1 := fun same => apart (List.mem_map.mpr ⟨f, later, Eq.symm same⟩)
      have behind := ih others later
      simp only [valueOf?] at behind
      simp [valueOf?, other, behind]

theorem chosen_laidOver {usual : List (String × Value)} (distinct : (usual.map (·.1)).Nodup)
    (values : List (String × Value)) :
    (usual.map fun f => (f.1, chosen values usual f.1)) = laidOver (valueOf? values) usual := by
  apply List.map_congr_left
  intro f member
  have own := valueOf?_member distinct member
  rw [valueOf?] at own
  rw [chosen, List.find?_append, Option.map_or, own, valueOf?]
  cases values.find? (·.1 == f.1) <;> rfl

theorem valueOf?_filter (values : List (String × Value)) (name key : String) :
    valueOf? (values.filter (·.1 != name)) key = if key = name then none else valueOf? values key := by
  induction values with
  | nil => simp [valueOf?]
  | cons f rest ih =>
    simp only [valueOf?] at ih
    by_cases here : f.1 = name <;> by_cases wanted : f.1 = key <;> simp_all [valueOf?]

theorem valueOf?_overlay (values : List (String × Value)) (name : String) (value : Option Value) (key : String) :
    valueOf? (overlay values name value) key =
      if key = name then value.or (valueOf? values key) else valueOf? values key := by
  cases value with
  | none => simp [overlay]
  | some v =>
    have filtered := valueOf?_filter values name key
    rw [valueOf?] at filtered
    rw [overlay, valueOf?, List.find?_append, Option.map_or, filtered]
    by_cases same : key = name
    · simp [same]
    · simp [same, Ne.symm same]

theorem valueOf?_entriesOf {known : List String} {entries : List (Value × Value)}
    (texts : ∀ e ∈ entries, ∃ name ∈ known, e.1 = .text name) (key : String) :
    valueOf? (entriesOf entries) key = Value.find? entries key := by
  induction entries with
  | nil => rfl
  | cons e rest ih =>
    obtain ⟨name, _, named⟩ := texts e List.mem_cons_self
    have later := ih fun e member => texts e (List.mem_cons_of_mem _ member)
    obtain ⟨k, v⟩ := e
    cases named
    simp only [valueOf?, entriesOf, Value.find?] at later
    simp only [valueOf?, entriesOf, Value.find?, List.map_cons, List.find?_cons, Value.plain, Value.same]
    cases name == key
    · exact later
    · rfl

theorem colorSwitch_value (env : Environment) :
    (colorSwitch env).1 = ((env.given? "DAOGEN_LOG_COLOR").bind readSwitch?).map .bool := by
  rw [colorSwitch]
  split
  · rename_i unset
    rw [unset]
    rfl
  · rename_i word set
    rw [set, Option.bind_some]
    cases readSwitch? word <;> rfl

theorem valueOf?_withEnvironment (env : Environment) (values : List (String × Value)) (key : String) :
    valueOf? (withEnvironment env values (colorSwitch env).1) key =
      (fromEnvironment? env key).or (valueOf? values key) := by
  simp only [withEnvironment, valueOf?_overlay, colorSwitch_value, fromEnvironment?]
  by_cases level : key = "level"
  · subst level
    simp
  by_cases format : key = "format"
  · subst format
    simp
  by_cases file : key = "output_file"
  · subst file
    simp
  by_cases color : key = "use_color"
  · subst color
    simp
  simp [level, format, file, color]

theorem oneOf?_text {allowed : List String} {v : Value} {name : String} (accepted : oneOf? allowed v = some name) :
    v = .text name := by
  unfold oneOf? at accepted
  split at accepted
  · split at accepted
    · cases accepted
      rfl
    · cases accepted
  · cases accepted

theorem check_logging {level format outputFile useColor includeTimestamp : Value} {l : Logging}
    (accepted : Logging.check level format outputFile useColor includeTimestamp = .ok l) :
    l.fields = [("level", level), ("format", format), ("output_file", outputFile), ("use_color", useColor),
      ("include_timestamp", includeTimestamp)] := by
  unfold Logging.check at accepted
  split at accepted
  · rename_i levelName named
    split at accepted
    · rename_i formatName shaped
      cases accepted
      rw [Logging.fields, oneOf?_text named, oneOf?_text shaped]
    · cases accepted
  · cases accepted

theorem check_ok_iff {fieldSuffix implementationSuffix contextAttribute headerComment : Value} {g : Generator} :
    Generator.check fieldSuffix implementationSuffix contextAttribute headerComment = .ok g ↔
      suffixFits 'x' fieldSuffix = true ∧ suffixFits 'X' implementationSuffix = true ∧
        ∃ name, contextAttribute = .text name ∧ Text.isName name.toList = true ∧
          hasLineFeed? headerComment = some false ∧ g = ⟨fieldSuffix, implementationSuffix, name, headerComment⟩ := by
  unfold Generator.check
  constructor
  · intro accepted
    cases field : suffixFits 'x' fieldSuffix with
    | false =>
      simp only [field] at accepted
      cases accepted
    | true =>
      cases implementation : suffixFits 'X' implementationSuffix with
      | false =>
        simp only [field, implementation] at accepted
        cases accepted
      | true =>
        simp only [field, implementation, Bool.not_true, Bool.false_eq_true, ↓reduceIte] at accepted
        split at accepted
        · rename_i name
          split at accepted
          · cases accepted
          · rename_i named
            split at accepted <;> cases accepted
            rename_i single
            exact ⟨rfl, rfl, name, rfl, by simpa using named, single, rfl⟩
        · cases accepted
  · rintro ⟨field, implementation, name, rfl, named, single, rfl⟩
    simp only [field, implementation, named, single]
    rfl

theorem check_generator {fieldSuffix implementationSuffix contextAttribute headerComment : Value} {g : Generator}
    (accepted : Generator.check fieldSuffix implementationSuffix contextAttribute headerComment = .ok g) :
    g.fields = [("field_suffix", fieldSuffix), ("implementation_suffix", implementationSuffix),
      ("context_attribute", contextAttribute), ("header_comment", headerComment)] := by
  obtain ⟨_, _, name, rfl, _, _, rfl⟩ := check_ok_iff.mp accepted
  rfl

theorem logging_fields {l : Logging} (made : Logging.ofFields values = .ok l) :
    l.fields = laidOver (valueOf? values) Logging.default.fields := by
  rw [← chosen_laidOver (by decide)]
  unfold Logging.ofFields at made
  split at made
  · cases made
  · exact check_logging made

theorem generator_fields {g : Generator} (made : Generator.ofFields values = .ok g) :
    g.fields = laidOver (valueOf? values) Generator.default.fields := by
  rw [← chosen_laidOver (by decide)]
  unfold Generator.ofFields at made
  split at made
  · cases made
  · exact check_generator made

end Lookup

section Parts

variable {env : Environment}

theorem under?_bare {v : Value} (bare : v.given = false) (key : String) : under? key v = none := by
  cases v with
  | map entries =>
    cases entries with
    | nil => rfl
    | cons => cases bare
  | _ => rfl

theorem under?_orEmpty (part : Option Value) (key : String) : under? key (orEmpty part) = part.bind (under? key) := by
  cases part with
  | none => rfl
  | some v =>
    rw [orEmpty, Option.bind_some]
    cases given : v.given with
    | false => exact (under?_bare given key).symm
    | true => rfl

theorem under?_expand (env : Environment) (key : String) (v : Value) :
    under? key (expand env v) = (under? key v).map (expand env) := by
  cases v with
  | map entries =>
    rw [expand, under?, under?]
    induction entries with
    | nil => rfl
    | cons e rest ih =>
      obtain ⟨k, v⟩ := e
      simp only [Value.find?] at ih
      simp only [expandEntries, Value.find?, List.find?_cons]
      cases k.same (.text key)
      · exact ih
      · rfl
  | _ => simp [expand, under?]

theorem loggingOf_fields {part : Value} {l : Logging} (made : (loggingOf env part).2 = .ok l) :
    l.fields = laidOver (fun field => (fromEnvironment? env field).or (under? field part)) Logging.default.fields := by
  unfold loggingOf at made
  split at made
  · cases made
  · rename_i entries accepted
    have known := checkNames_known accepted
    rw [logging_fields made]
    congr 1
    funext field
    rw [valueOf?_withEnvironment, valueOf?_entriesOf known, under?]
  · cases made

theorem generatorOf_fields {part : Value} {g : Generator} (made : generatorOf part = .ok g) :
    g.fields = laidOver (fun field => under? field part) Generator.default.fields := by
  unfold generatorOf at made
  cases accepted : checkNames "generator" "keys" Generator.fieldNames part with
  | error f =>
    rw [accepted] at made
    cases made
  | ok _ =>
    rw [accepted] at made
    cases part with
    | map entries =>
      rw [generator_fields made]
      congr 1
      funext field
      exact valueOf?_entriesOf (checkNames_known accepted) field
    | _ => cases made

theorem build_layered {v : Value} {c : Config} (made : (build env v).2 = .ok c) :
    LogLayered env (inPart? v) c ∧ GeneratorLayered (inPart? v) c := by
  unfold build at made
  split at made
  · cases made
  · rename_i entries accepted
    cases logging : (loggingOf env (orEmpty (Value.find? entries "logging"))).2 with
    | error f =>
      simp only [logging] at made
      cases made
    | ok l =>
      cases generator : generatorOf (orEmpty (Value.find? entries "generator")) with
      | error f =>
        simp only [logging, generator] at made
        cases made
      | ok g =>
        simp only [logging, generator] at made
        cases made
        have log := loggingOf_fields logging
        have names := generatorOf_fields generator
        simp only [under?_orEmpty] at log names
        exact ⟨log, names⟩
  · cases made

theorem inPart?_expand (env : Environment) (v : Value) (part field : String) :
    inPart? (expand env v) part field = (inPart? v part field).map (expand env) := by
  rw [inPart?, under?_expand, inPart?]
  cases under? part v with
  | none => rfl
  | some inner => exact under?_expand env field inner

end Parts

section Reading

variable {tree : Tree} {p : Path} {part : Option Value}

structure Reads (f : Source) (part : Option Value) : Prop where
  merged : f.Merged ↔ part.isSome
  tells : ∀ key, part.bind (under? key) = f.settings?.bind (under? key)

theorem manifestPart_reads {document v : Value} (manifest : isManifest p = true)
    (made : manifestPart p document = .ok v) : Reads ⟨p, document⟩ (some v) := by
  have spec : v = orEmpty (under? "spec" document) := by
    cases document with
    | map entries =>
      simp only [manifestPart] at made
      split at made
      · cases made
      · split at made
        · rename_i spec held
          cases made
          exact held.symm
        · cases made
    | _ => cases made
  refine ⟨by simp [Source.Merged, manifest], fun key => ?_⟩
  simp [spec, under?_orEmpty, Source.settings?, manifest]

theorem projectPart_reads {document : List (Value × Value)} (alone : isManifest p = false)
    (made : projectPart p document = .ok part) : Reads ⟨p, .map document⟩ part := by
  unfold projectPart at made
  split at made
  · rename_i tools held
    have table : (⟨p, .map document⟩ : Source).table? = Value.find? tools "daogen" := by
      rw [Source.table?, under?]
      cases tool : Value.find? document "tool" with
      | none =>
        rw [tool] at held
        cases held
        rfl
      | some v =>
        rw [tool, Option.getD_some] at held
        rw [held]
        rfl
    split at made
    · rename_i missing
      rw [missing] at table
      cases made
      by_cases shared : p.name = projectFile
      all_goals
        refine ⟨by simp [Source.Merged, alone, table, shared], fun key => ?_⟩
        simp [Source.settings?, alone, table, shared]
    · rename_i v found
      rw [found] at table
      cases made
      cases given : v.given with
      | true =>
        refine ⟨by simp [Source.Merged, alone, table, given], fun key => ?_⟩
        simp [Source.settings?, alone, table]
      | false =>
        refine ⟨by simp [Source.Merged, alone, table, given], fun key => ?_⟩
        simp [Source.settings?, alone, table, under?_bare given]
  · cases made

theorem manifestPart_error {document : Value} {f : LoadFault} (failed : manifestPart p document = .error f) :
    f.isMissing = false := by
  unfold manifestPart refuse at failed
  split at failed
  · dsimp only at failed
    split at failed
    · cases failed
      rfl
    · split at failed <;> cases failed
      rfl
  · cases failed
    rfl

theorem projectPart_error {document : List (Value × Value)} {f : LoadFault} (failed : projectPart p document = .error f) :
    f.isMissing = false := by
  unfold projectPart at failed
  split at failed
  · split at failed <;> cases failed
  · cases failed
    rfl

variable [Yaml.Library]

theorem readPart_document (tree : Tree) (p : Path) :
    document? tree p = none ∧ (∃ f, readPart tree p = .error f) ∨
      ∃ d, document? tree p = some d ∧
        (isManifest p = true ∧ readPart tree p = (manifestPart p d).map some ∨
          isManifest p = false ∧ ∃ entries, d = .map entries ∧ readPart tree p = projectPart p entries) := by
  unfold document? readPart readManifest readProject readText
  cases tree.read p with
  | error f => exact .inl ⟨rfl, .file f, by split <;> rfl⟩
  | ok text =>
    cases isManifest p with
    | true =>
      cases parsed : Yaml.Library.read text with
      | error f =>
        refine .inl ⟨by simp [parsed, Except.toOption], .yaml f, ?_⟩
        simp [parsed, Except.mapError, bind, Except.bind]
      | ok d =>
        refine .inr ⟨d, by simp [parsed, Except.toOption], .inl ⟨rfl, ?_⟩⟩
        simp only [parsed, Except.mapError, bind, Except.bind]
        cases manifestPart p d <;> rfl
    | false =>
      cases parsed : Toml.read? text with
      | none =>
        refine .inl ⟨by simp [parsed, Except.toOption], .toml, ?_⟩
        simp only [parsed, Except.mapError, bind, Except.bind]
        rfl
      | some entries =>
        refine .inr ⟨.map entries, by simp [parsed, Except.toOption], .inr ⟨rfl, entries, rfl, ?_⟩⟩
        simp [parsed, Except.mapError, bind, Except.bind]

theorem readPart_reads (made : readPart tree p = .ok part) :
    ∃ d, document? tree p = some d ∧ Reads ⟨p, d⟩ part := by
  rcases readPart_document tree p with ⟨_, f, failed⟩ | ⟨d, document, ⟨manifest, read⟩ | ⟨alone, entries, rfl, read⟩⟩
  · rw [failed] at made
    cases made
  · rw [read] at made
    cases spec : manifestPart p d with
    | error f =>
      rw [spec] at made
      cases made
    | ok v =>
      rw [spec] at made
      cases made
      exact ⟨d, document, manifestPart_reads manifest spec⟩
  · rw [read] at made
    exact ⟨_, document, projectPart_reads alone made⟩

theorem readPart_missing {f : LoadFault} (failed : readPart tree p = .error f) (missing : f.isMissing = true) :
    document? tree p = none := by
  rcases readPart_document tree p with ⟨unread, _⟩ | ⟨d, _, ⟨_, read⟩ | ⟨_, entries, rfl, read⟩⟩
  · exact unread
  · rw [read] at failed
    cases spec : manifestPart p d with
    | error fault =>
      rw [spec] at failed
      cases failed
      cases missing.symm.trans (manifestPart_error spec)
    | ok v =>
      rw [spec] at failed
      cases failed
  · rw [read] at failed
    cases missing.symm.trans (projectPart_error failed)

end Reading

section Loading

variable {env : Environment} {tree : Tree} {p : Path} {part : Option Value} {f : Source} {c : Config}

theorem said?_reads (reads : Reads f part) (name field : String) :
    f.said? env name field = (part.bind fun v => inPart? v name field).map (expand env) := by
  rw [Source.said?]
  simp only [inPart?, ← Option.bind_assoc, reads.tells]

-- Without anything to merge with nothing is said, and variables do not count.
inductive Settled (env : Environment) (f? : Option Source) (c : Config) : Prop where
  | merged (there : ∃ f ∈ f?, f.Merged) (log : LogLayered env (said? env f?) c)
    (generator : GeneratorLayered (said? env f?) c)
  | usual (bare : ¬∃ f ∈ f?, f.Merged) (silent : ∀ name field, said? env f? name field = none) (same : c = .default)

theorem settle_settled (reads : Reads f part) (settled : (settle env p part).2 = .ok c) : Settled env (some f) c := by
  cases part with
  | none =>
    cases settled
    refine .usual ?_ (fun name field => ?_) rfl
    · simp [reads.merged]
    · rw [said?, Option.bind_some, said?_reads reads]
      rfl
  | some v =>
    have said : said? env (some f) = inPart? (expand env v) := by
      funext name field
      rw [said?, Option.bind_some, said?_reads reads, inPart?_expand, Option.bind_some]
    cases made : (build env (expand env v)).2 with
    | error fault =>
      simp only [settle, made] at settled
      cases settled
    | ok built =>
      simp only [settle, made] at settled
      cases settled
      obtain ⟨log, generator⟩ := build_layered made
      rw [← said] at log generator
      exact .merged ⟨f, rfl, reads.merged.mpr rfl⟩ log generator

theorem laidOver_same {given? : String → Option Value} {fields : List (String × Value)} :
    fields = laidOver given? fields ↔ ∀ f ∈ fields, ∀ v, given? f.1 = some v → v = f.2 := by
  induction fields with
  | nil => simp [laidOver]
  | cons f rest ih =>
    rw [laidOver, List.map_cons, List.cons_eq_cons, ← laidOver, ih, List.forall_mem_cons]
    apply and_congr_left'
    cases given? f.1 with
    | none => simp
    | some v => simp [Prod.ext_iff, eq_comm]

variable [Yaml.Library]

theorem readConfig_ok (read : (readConfig env tree p).2 = .ok c) :
    ∃ part, readPart tree p = .ok part ∧ (settle env p part).2 = .ok c := by
  unfold readConfig at read
  cases held : readPart tree p with
  | error fault =>
    rw [held] at read
    cases read
  | ok part =>
    rw [held] at read
    exact ⟨part, rfl, read⟩

theorem readConfig_missing {fault : LoadFault} (failed : (readConfig env tree p).2 = .error fault)
    (missing : fault.isMissing = true) : document? tree p = none := by
  unfold readConfig at failed
  cases held : readPart tree p with
  | error fault =>
    rw [held] at failed
    cases failed
    exact readPart_missing held missing
  | ok part =>
    rw [held] at failed
    cases part with
    | none => cases failed
    | some v =>
      cases built : (build env (expand env v)).2 with
      | error other =>
        simp only [settle, built, Except.mapError] at failed
        cases failed
        cases missing
      | ok c =>
        simp only [settle, built, Except.mapError] at failed
        cases failed

theorem source?_located (located : (locate env tree wanted).2 = .ok p) :
    source? env tree wanted =
      (document? tree (p.absolute tree.current)).map fun d => ⟨p.absolute tree.current, d⟩ := by
  rw [source?, located]
  rfl

theorem source?_lost {fault : LoadFault} (lost : (locate env tree wanted).2 = .error fault) :
    source? env tree wanted = none := by
  rw [source?, lost]
  rfl

variable {s next : Store} {made : Made} {events : List Log.Event}

theorem fetch_clear (s : Store) (env : Environment) (tree : Tree) (p : Path) :
    (s.clear.fetch env tree p).2.1 = (readConfig env tree p).2.map (Made.mk s.count) := by
  have forgotten : s.clear.get? p.text = none := rfl
  rw [Store.fetch, forgotten]
  dsimp only
  split
  · rename_i failed
    rw [failed]
    rfl
  · rename_i read
    rw [read]
    rfl

theorem loadFile_ok (loaded : (s.clear.loadFile env tree wanted).2.1 = .ok made) :
    ∃ p, (locate env tree wanted).2 = .ok p ∧ (readConfig env tree (p.absolute tree.current)).2 = .ok made.config := by
  unfold Store.loadFile at loaded
  split at loaded
  · cases loaded
  · rename_i p located
    refine ⟨p, by rw [located], ?_⟩
    dsimp only at loaded
    rw [fetch_clear] at loaded
    cases read : (readConfig env tree (p.absolute tree.current)).2 with
    | error fault =>
      rw [read] at loaded
      cases loaded
    | ok c =>
      rw [read] at loaded
      cases loaded
      rfl

theorem loadFile_missing {fault : LoadFault} (failed : (s.clear.loadFile env tree wanted).2.1 = .error fault)
    (missing : fault.isMissing = true) : source? env tree wanted = none := by
  unfold Store.loadFile at failed
  split at failed
  · rename_i lost
    exact source?_lost (by rw [lost])
  · rename_i p located
    rw [source?_located (p := p) (by rw [located])]
    dsimp only at failed
    rw [fetch_clear] at failed
    cases read : (readConfig env tree (p.absolute tree.current)).2 with
    | error other =>
      rw [read] at failed
      cases failed
      rw [readConfig_missing read missing]
      rfl
    | ok c =>
      rw [read] at failed
      cases failed

theorem load_ok (loaded : s.clear.load env tree wanted = (events, .ok made, next)) :
    (s.clear.loadFile env tree wanted).2.1 = .ok made ∨ source? env tree wanted = none ∧ made.config = .default := by
  unfold Store.load at loaded
  split at loaded
  · rename_i fault _ failed
    split at loaded
    · rename_i fallback
      cases loaded
      rw [Bool.and_eq_true] at fallback
      exact .inr ⟨loadFile_missing (by rw [failed]) fallback.1, rfl⟩
    · cases loaded
  · exact .inl (by rw [loaded])

theorem load_settled (loaded : s.clear.load env tree wanted = (events, .ok made, next)) :
    Settled env (source? env tree wanted) made.config := by
  rcases load_ok loaded with opened | ⟨lost, usual⟩
  · obtain ⟨p, located, read⟩ := loadFile_ok opened
    obtain ⟨part, held, settled⟩ := readConfig_ok read
    obtain ⟨d, document, reads⟩ := readPart_reads held
    rw [source?_located located, document]
    exact settle_settled reads settled
  · rw [lost]
    exact .usual (by simp) (fun _ _ => rfl) usual

-- The generator's fields are always laid over each other; the log's are where a file is
-- merged, and elsewhere as long as the environment asks for nothing but the usual.
theorem layered_exactly (loaded : s.clear.load env tree wanted = (events, .ok made, next)) :
    GeneratorLayered (said? env (source? env tree wanted)) made.config ∧
      (LogLayered env (said? env (source? env tree wanted)) made.config ↔
        (∃ f ∈ source? env tree wanted, f.Merged) ∨
          ∀ f ∈ Logging.default.fields, ∀ v, fromEnvironment? env f.1 = some v → v = f.2) := by
  cases load_settled loaded with
  | merged there log generator => exact ⟨generator, iff_of_true log (.inl there)⟩
  | usual bare silent same =>
    rw [GeneratorLayered, LogLayered, same]
    simp only [silent, Option.or_none, bare, false_or]
    refine ⟨laidOver_same.mpr ?_, laidOver_same⟩
    intro f _ v given
    rw [silent] at given
    cases given

end Loading

section Samples

open scoped Yaml.Safe

def debugging : Environment := ⟨[("DAOGEN_LOG_LEVEL", "debug")]⟩

def jsonFile : Tree := ⟨[(["log.toml"], .file "[logging]\nformat = \"json\"\n")], []⟩

def jsonPart : Value := .map [(.text "logging", .map [(.text "format", .text "json")])]

def jsonDebugging : Config := ⟨{ Logging.default with level := "DEBUG", format := "json" }, .default⟩

theorem jsonFile_part : readPart jsonFile ⟨1, ["log.toml"]⟩ = .ok (some jsonPart) := by
  have parsed : Toml.read? "[logging]\nformat = \"json\"\n" =
    some [(.text "logging", .map [(.text "format", .text "json")])] := by cbv
  have place : isManifest ⟨1, ["log.toml"]⟩ = false := by decide +kernel
  have held : jsonFile.read ⟨1, ["log.toml"]⟩ = .ok "[logging]\nformat = \"json\"\n" := rfl
  rw [readPart, place, if_neg (by decide), readProject, readText, held]
  simp only [Except.mapError, bind, Except.bind, parsed]
  rfl

theorem jsonPart_built : build debugging (expand debugging jsonPart) = ([], .ok jsonDebugging) := by
  have plain : expand debugging jsonPart = jsonPart := by cbv
  rw [plain]
  rfl

theorem jsonFile_read : readConfig debugging jsonFile ⟨1, ["log.toml"]⟩ =
    ([⟨.info, loggerName, "Loading configuration from /log.toml"⟩], .ok jsonDebugging) := by
  simp only [readConfig, jsonFile_part, settle, jsonPart_built, Except.mapError]
  rfl

theorem jsonFile_loaded : Store.empty.clear.load debugging jsonFile (some ⟨0, ["log.toml"]⟩) =
    ([⟨.info, loggerName, "Loading configuration from /log.toml"⟩], .ok ⟨0, jsonDebugging⟩,
      ⟨[("/log.toml", ⟨0, jsonDebugging⟩)], 1⟩) := by
  have located : locate debugging jsonFile (some ⟨0, ["log.toml"]⟩) = ([], .ok ⟨0, ["log.toml"]⟩) := rfl
  have place : Path.absolute jsonFile.current ⟨0, ["log.toml"]⟩ = ⟨1, ["log.toml"]⟩ := rfl
  have forgotten (path : String) : Store.empty.clear.get? path = none := rfl
  unfold Store.load Store.loadFile Store.fetch
  simp only [located, place, forgotten, jsonFile_read]
  rfl

theorem jsonFile_layered :
    (∃ events next, Store.empty.clear.load debugging jsonFile (some ⟨0, ["log.toml"]⟩) =
      (events, .ok ⟨0, jsonDebugging⟩, next)) ∧
      LogLayered debugging (said? debugging (source? debugging jsonFile (some ⟨0, ["log.toml"]⟩))) jsonDebugging := by
  refine ⟨⟨_, _, jsonFile_loaded⟩, (layered_exactly jsonFile_loaded).2.mpr (.inl ?_)⟩
  obtain ⟨d, document, reads⟩ := readPart_reads jsonFile_part
  refine ⟨⟨_, d⟩, ?_, reads.merged.mpr rfl⟩
  rw [source?_located (p := ⟨0, ["log.toml"]⟩) rfl]
  exact congrArg _ document

theorem nowhere_unlayered :
    ∃ events next, Store.empty.clear.load debugging Tree.empty none = (events, .ok ⟨0, .default⟩, next) ∧
      ¬LogLayered debugging (said? debugging (source? debugging Tree.empty none)) .default := by
  refine ⟨_, _, rfl, fun layered => ?_⟩
  have loud : fromEnvironment? debugging "level" = some (.text "DEBUG") := by cbv
  have level := laidOver_same.mp layered ("level", .text "INFO") List.mem_cons_self (.text "DEBUG") (by rw [loud]; rfl)
  exact absurd level (by simp)

end Samples

end DaoMapper.Settings
