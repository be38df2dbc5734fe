import DaoMapper.Proofs.Layers

-- What comes of a file of settings, by what kind of value stands where: settings of the
-- kinds that are declared, settings of other kinds, a refusal, or a fault that is none.
namespace DaoMapper.Settings

open Files (Path Tree)

-- What a place in a document leads to: it is as declared, it is something else and goes
-- through, it is refused in words, or the operation on it fails.
inductive Verdict where
  | fits
  | slips
  | refused
  | escapes
  deriving DecidableEq, Repr

namespace Verdict

def stops : Verdict → Bool
  | fits | slips => false
  | refused | escapes => true

-- The first that stops, of all that are looked at in their order.
def first? (all : List Verdict) : Option Verdict := all.find? stops

def decided (all : List Verdict) : Verdict := (first? all).getD (if .slips ∈ all then .slips else .fits)

def Clear (w : Verdict) : Prop := w = .fits ∨ w = .refused

end Verdict

open Verdict

def namesVerdict (known : List String) (part : Value) : Verdict :=
  match items? part with
  | none => .escapes
  | some items =>
    let unknown := (distinct items).filter fun v => !known.any fun name => v.same (.text name)
    if !items.all Value.keyable then .escapes
    else if unknown.isEmpty then .fits
    else if Value.orderable unknown then .refused else .escapes

def shapeVerdict : Value → Verdict
  | .map _ => .fits
  | _ => .escapes

def wordVerdict (allowed : List String) : Value → Verdict
  | .text s => if allowed.contains s then .fits else .refused
  | _ => .refused

def fileVerdict : Value → Verdict
  | .null | .text _ => .fits
  | _ => .slips

def switchVerdict : Value → Verdict
  | .bool _ => .fits
  | _ => .slips

def suffixVerdict (letter : Char) (v : Value) : Verdict :=
  if suffixFits letter v then match v with
    | .text _ => .fits
    | _ => .slips
  else .refused

def attributeVerdict : Value → Verdict
  | .text s => if Text.isName s.toList then .fits else .refused
  | _ => .escapes

def singleLine (s : String) : Bool := !s.toList.contains '\n' && !s.toList.contains '\r'

def headerVerdict (v : Value) : Verdict :=
  match hasLineFeed? v, v with
  | none, _ => .escapes
  | some true, _ => .refused
  | some false, .text s => if singleLine s then .fits else .slips
  | some false, _ => .slips

def logValue (env : Environment) (v : Value) (field : String) : Value :=
  ((fromEnvironment? env field).or (inPart? v "logging" field)).getD
    ((valueOf? Logging.default.fields field).getD .null)

def nameValue (v : Value) (field : String) : Value :=
  (inPart? v "generator" field).getD ((valueOf? Generator.default.fields field).getD .null)

def loggingVerdicts (env : Environment) (v : Value) : List Verdict :=
  let part := orEmpty (under? "logging" v)
  [namesVerdict Logging.fieldNames part, shapeVerdict part,
    wordVerdict logLevels (logValue env v "level"), wordVerdict logFormats (logValue env v "format"),
    fileVerdict (logValue env v "output_file"), switchVerdict (logValue env v "use_color"),
    switchVerdict (logValue env v "include_timestamp")]

def generatorVerdicts (v : Value) : List Verdict :=
  let part := orEmpty (under? "generator" v)
  [namesVerdict Generator.fieldNames part, shapeVerdict part,
    suffixVerdict 'x' (nameValue v "field_suffix"), suffixVerdict 'X' (nameValue v "implementation_suffix"),
    attributeVerdict (nameValue v "context_attribute"), headerVerdict (nameValue v "header_comment")]

def partVerdicts (env : Environment) (v : Value) : List Verdict :=
  [namesVerdict ["logging", "generator"] v, shapeVerdict v] ++ (loggingVerdicts env v ++ generatorVerdicts v)

namespace Source

def openingVerdict (f : Source) : Verdict :=
  if isManifest f.path then match under? "kind" f.document, orEmpty (under? "spec" f.document) with
    | some (.text "Config"), .map _ => .fits
    | _, _ => .refused
  else match under? "tool" f.document with
    | none | some (.map _) => .fits
    | _ => .escapes

def part? (f : Source) : Option Value :=
  if isManifest f.path then some (orEmpty (under? "spec" f.document))
  else match f.table? with
    | some part => if part.given then some part else none
    | none => if f.path.name = projectFile then none else some f.document

def verdicts (f : Source) (env : Environment) : List Verdict :=
  f.openingVerdict :: (f.part?.map fun v => partVerdicts env (expand env v)).getD []

end Source

structure Config.Declared (c : Config) : Prop where
  level : c.logging.level ∈ logLevels
  format : c.logging.format ∈ logFormats
  outputFile : c.logging.outputFile = .null ∨ ∃ s, c.logging.outputFile = .text s
  useColor : ∃ b, c.logging.useColor = .bool b
  includeTimestamp : ∃ b, c.logging.includeTimestamp = .bool b
  fieldSuffix : ∃ s, c.generator.fieldSuffix = .text s ∧ s ≠ "" ∧ Text.isName ('x' :: s.toList) = true
  implementationSuffix : ∃ s, c.generator.implementationSuffix = .text s ∧ s ≠ "" ∧ Text.isName ('X' :: s.toList) = true
  contextAttribute : Text.isName c.generator.contextAttribute.toList = true
  headerComment : ∃ s, c.generator.headerComment = .text s ∧ '\n' ∉ s.toList ∧ '\r' ∉ s.toList

def Config.Allowed (c : Config) : Prop :=
  c.logging.level ∈ logLevels ∧ c.logging.format ∈ logFormats ∧ Text.isName c.generator.contextAttribute.toList = true

inductive Ends : Except LoadFault Config → Verdict → Prop where
  | fits (declared : c.Declared) : Ends (.ok c) .fits
  | slips (other : ¬c.Declared) : Ends (.ok c) .slips
  | refused (component reason : String) : Ends (.error (.settings (.invalid component reason))) .refused
  | escapes (other : ∀ component reason, f ≠ .settings (.invalid component reason)) : Ends (.error f) .escapes

inductive Clean : Except LoadFault Config → Prop where
  | declared (declared : c.Declared) : Clean (.ok c)
  | refused (component reason : String) : Clean (.error (.settings (.invalid component reason)))

section Stops

def stop? : Except Fault α → Option Verdict
  | .ok _ => none
  | .error (.invalid _ _) => some .refused
  | .error _ => some .escapes

theorem first?_append (xs ys : List Verdict) : first? (xs ++ ys) = (first? xs).or (first? ys) := by
  rw [first?, List.find?_append, first?, first?]

theorem stop?_bind {first : Except Fault α} {next : α → Except Fault β} (here : stop? first = first? xs)
    (there : ∀ a, first = .ok a → stop? (next a) = first? ys) : stop? (first >>= next) = first? (xs ++ ys) := by
  rw [first?_append, ← here]
  cases first with
  | ok a => exact there a rfl
  | error f => cases f <;> rfl

theorem stop?_pure (first : Except Fault α) (f : α → β) : stop? (first >>= fun a => pure (f a)) = stop? first := by
  cases first with
  | ok a => rfl
  | error f => cases f <;> rfl

theorem checkNames_stop (component what : String) (known : List String) (part : Value) :
    stop? (checkNames component what known part) = first? [namesVerdict known part] := by
  unfold checkNames namesVerdict
  cases items? part with
  | none => rfl
  | some items =>
    dsimp only
    generalize (distinct items).filter _ = unknown
    cases items.all Value.keyable with
    | false => rfl
    | true =>
      cases unknown with
      | nil => rfl
      | cons v rest =>
        simp only [Value.sorted?]
        cases Value.orderable (v :: rest) <;> rfl

theorem oneOf?_verdict (allowed : List String) (v : Value) :
    wordVerdict allowed v = if (oneOf? allowed v).isSome then .fits else .refused := by
  cases v with
  | text s =>
    rw [wordVerdict, oneOf?]
    split <;> rfl
  | _ => rfl

theorem loggingCheck_stop (level format outputFile useColor includeTimestamp : Value) :
    stop? (Logging.check level format outputFile useColor includeTimestamp) =
      first? [wordVerdict logLevels level, wordVerdict logFormats format] := by
  rw [oneOf?_verdict, oneOf?_verdict, Logging.check]
  cases oneOf? logLevels level with
  | none => rfl
  | some name => cases oneOf? logFormats format <;> rfl

theorem first?_suffix (letter : Char) (v : Value) (rest : List Verdict) :
    first? (suffixVerdict letter v :: rest) = if suffixFits letter v then first? rest else some .refused := by
  unfold suffixVerdict
  cases suffixFits letter v with
  | false => rfl
  | true => cases v <;> rfl

theorem first?_header (v : Value) : first? [headerVerdict v] =
    (hasLineFeed? v).elim (some .escapes) fun broken => if broken then some .refused else none := by
  unfold headerVerdict
  cases hasLineFeed? v with
  | none => rfl
  | some broken =>
    cases broken with
    | true => rfl
    | false =>
      cases v with
      | text s =>
        dsimp only
        cases singleLine s <;> rfl
      | _ => rfl

theorem generatorCheck_stop (fieldSuffix implementationSuffix contextAttribute headerComment : Value) :
    stop? (Generator.check fieldSuffix implementationSuffix contextAttribute headerComment) =
      first? [suffixVerdict 'x' fieldSuffix, suffixVerdict 'X' implementationSuffix,
        attributeVerdict contextAttribute, headerVerdict headerComment] := by
  rw [first?_suffix, first?_suffix]
  unfold Generator.check
  cases suffixFits 'x' fieldSuffix with
  | false => rfl
  | true =>
    cases suffixFits 'X' implementationSuffix with
    | false => rfl
    | true =>
      cases contextAttribute with
      | text name =>
        rw [attributeVerdict]
        dsimp only
        cases Text.isName name.toList with
        | false => rfl
        | true =>
          change _ = first? [headerVerdict headerComment]
          rw [first?_header]
          cases hasLineFeed? headerComment with
          | none => rfl
          | some broken => cases broken <;> rfl
      | _ => rfl

theorem chosen_value (values usual : List (String × Value)) (name : String) :
    chosen values usual name = (valueOf? values name).getD ((valueOf? usual name).getD .null) := by
  rw [chosen, List.find?_append, Option.map_or, valueOf?, valueOf?]
  cases values.find? (·.1 == name) <;> rfl

def Knows (known : List String) (values : List (String × Value)) : Prop := ∀ v ∈ values, v.1 ∈ known

theorem Knows.any {known : List String} {values : List (String × Value)} (knows : Knows known values) :
    (values.any fun v => !known.contains v.1) = false := by
  rw [List.any_eq_false]
  intro v member
  simpa using knows v member

theorem entriesOf_knows {known : List String} {entries : List (Value × Value)}
    (texts : ∀ e ∈ entries, ∃ name ∈ known, e.1 = .text name) : Knows known (entriesOf entries) := by
  intro v member
  obtain ⟨e, there, rfl⟩ := List.mem_map.mp member
  obtain ⟨name, among, named⟩ := texts e there
  rw [named]
  exact among

theorem overlay_knows {known : List String} {values : List (String × Value)} (knows : Knows known values)
    (among : name ∈ known) (value : Option Value) : Knows known (overlay values name value) := by
  cases value with
  | none => exact knows
  | some v =>
    intro w member
    rcases List.mem_append.mp member with old | new
    · exact knows w (List.mem_of_mem_filter old)
    · rw [List.mem_singleton.mp new]
      exact among

theorem withEnvironment_knows {values : List (String × Value)} (knows : Knows Logging.fieldNames values)
    (env : Environment) (color : Option Value) : Knows Logging.fieldNames (withEnvironment env values color) := by
  have level : "level" ∈ Logging.fieldNames := by decide
  have format : "format" ∈ Logging.fieldNames := by decide
  have file : "output_file" ∈ Logging.fieldNames := by decide
  have switch : "use_color" ∈ Logging.fieldNames := by decide
  exact overlay_knows (overlay_knows (overlay_knows (overlay_knows knows level _) format _) file _) switch _

theorem loggingFields_stop {values : List (String × Value)} (knows : Knows Logging.fieldNames values) :
    stop? (Logging.ofFields values) =
      first? [wordVerdict logLevels (chosen values Logging.default.fields "level"),
        wordVerdict logFormats (chosen values Logging.default.fields "format")] := by
  rw [Logging.ofFields, knows.any]
  exact loggingCheck_stop _ _ _ _ _

theorem generatorFields_stop {values : List (String × Value)} (knows : Knows Generator.fieldNames values) :
    stop? (Generator.ofFields values) =
      first? [suffixVerdict 'x' (chosen values Generator.default.fields "field_suffix"),
        suffixVerdict 'X' (chosen values Generator.default.fields "implementation_suffix"),
        attributeVerdict (chosen values Generator.default.fields "context_attribute"),
        headerVerdict (chosen values Generator.default.fields "header_comment")] := by
  rw [Generator.ofFields, knows.any]
  exact generatorCheck_stop _ _ _ _

theorem first?_passes {rest : List Verdict} (passes : ∀ w ∈ rest, w.stops = false) (xs : List Verdict) :
    first? (xs ++ rest) = first? xs := by
  have none : first? rest = none := List.find?_eq_none.mpr fun w member => by simp [passes w member]
  rw [first?_append, none, Option.or_none]

def lookedUp (names : Except Fault Unit) (part : Value) (other : Fault) (made : List (Value × Value) → Except Fault α) :
    Except Fault α :=
  names >>= fun _ => match part with
    | .map entries => made entries
    | _ => .error other

theorem lookedUp_stop {component what : String} {known : List String} {part : Value} {other : Fault}
    {made : List (Value × Value) → Except Fault α} (fault : stop? (.error other : Except Fault α) = some .escapes)
    (rest : ∀ entries, part = .map entries → checkNames component what known part = .ok () →
      stop? (made entries) = first? ys) :
    stop? (lookedUp (checkNames component what known part) part other made) =
      first? ([namesVerdict known part] ++ shapeVerdict part :: ys) := by
  refine stop?_bind (checkNames_stop component what known part) fun _ accepted => ?_
  cases part with
  | map entries => exact rest entries rfl accepted
  | _ => exact fault

theorem loggingOf_lookedUp (env : Environment) (part : Value) : (loggingOf env part).2 =
    lookedUp (checkNames "logging" "keys" Logging.fieldNames part) part .wrongShape fun entries =>
      Logging.ofFields (withEnvironment env (entriesOf entries) (colorSwitch env).1) := by
  unfold loggingOf lookedUp
  cases checkNames "logging" "keys" Logging.fieldNames part with
  | error f => rfl
  | ok _ => cases part <;> rfl

theorem generatorOf_lookedUp (part : Value) : generatorOf part =
    lookedUp (checkNames "generator" "keys" Generator.fieldNames part) part .unfit fun entries =>
      Generator.ofFields (entriesOf entries) := by
  unfold generatorOf lookedUp
  cases checkNames "generator" "keys" Generator.fieldNames part with
  | error f => rfl
  | ok _ => cases part <;> rfl

theorem build_lookedUp (env : Environment) (v : Value) : (build env v).2 =
    lookedUp (checkNames "daogen" "sections" ["logging", "generator"] v) v .lacksOperation fun entries => do
      let l ← (loggingOf env (orEmpty (Value.find? entries "logging"))).2
      let g ← generatorOf (orEmpty (Value.find? entries "generator"))
      return ⟨l, g⟩ := by
  unfold build lookedUp
  cases checkNames "daogen" "sections" ["logging", "generator"] v with
  | error f => rfl
  | ok _ => cases v <;> rfl

theorem loggingOf_stop (env : Environment) (v : Value) :
    stop? (loggingOf env (orEmpty (under? "logging" v))).2 = first? (loggingVerdicts env v) := by
  have file (w : Value) : (fileVerdict w).stops = false := by cases w <;> rfl
  have switch (w : Value) : (switchVerdict w).stops = false := by cases w <;> rfl
  have value (field : String) : ((fromEnvironment? env field).or (under? field (orEmpty (under? "logging" v)))).getD
      ((valueOf? Logging.default.fields field).getD .null) = logValue env v field := by
    rw [under?_orEmpty, logValue, inPart?]
  unfold loggingVerdicts
  simp only [← value]
  generalize orEmpty (under? "logging" v) = part
  rw [loggingOf_lookedUp]
  refine lookedUp_stop rfl fun entries here accepted => ?_
  subst here
  have known := checkNames_known accepted
  rw [loggingFields_stop (withEnvironment_knows (entriesOf_knows known) env _)]
  simp only [chosen_value, valueOf?_withEnvironment, valueOf?_entriesOf known]
  exact (first?_passes (by simp [file, switch]) [_, _]).symm

theorem generatorOf_stop (v : Value) :
    stop? (generatorOf (orEmpty (under? "generator" v))) = first? (generatorVerdicts v) := by
  have value (field : String) : (under? field (orEmpty (under? "generator" v))).getD
      ((valueOf? Generator.default.fields field).getD .null) = nameValue v field := by
    rw [under?_orEmpty, nameValue, inPart?]
  unfold generatorVerdicts
  simp only [← value]
  generalize orEmpty (under? "generator" v) = part
  rw [generatorOf_lookedUp]
  refine lookedUp_stop rfl fun entries here accepted => ?_
  subst here
  have known := checkNames_known accepted
  rw [generatorFields_stop (entriesOf_knows known)]
  simp only [chosen_value, valueOf?_entriesOf known]
  rfl

theorem build_stop (env : Environment) (v : Value) : stop? (build env v).2 = first? (partVerdicts env v) := by
  rw [build_lookedUp]
  refine lookedUp_stop rfl fun entries here _ => ?_
  subst here
  change _ = first? (loggingVerdicts env (.map entries) ++ generatorVerdicts (.map entries))
  refine stop?_bind (loggingOf_stop env (.map entries)) fun l _ => ?_
  exact (stop?_pure _ _).trans (generatorOf_stop (.map entries))

end Stops

section Fits

theorem wordVerdict_fits {allowed : List String} {s : String} : wordVerdict allowed (.text s) = .fits ↔ s ∈ allowed := by
  simp [wordVerdict]

theorem wordVerdict_passes {allowed : List String} {s : String} (passes : (wordVerdict allowed (.text s)).stops = false) :
    s ∈ allowed := by
  rw [wordVerdict] at passes
  split at passes
  · next among => simpa using among
  · cases passes

theorem attributeVerdict_passes {s : String} (passes : (attributeVerdict (.text s)).stops = false) :
    Text.isName s.toList = true := by
  rw [attributeVerdict] at passes
  split at passes
  · next named => exact named
  · cases passes

theorem fileVerdict_fits {v : Value} : fileVerdict v = .fits ↔ v = .null ∨ ∃ s, v = .text s := by
  cases v <;> simp [fileVerdict]

theorem switchVerdict_fits {v : Value} : switchVerdict v = .fits ↔ ∃ b, v = .bool b := by
  cases v <;> simp [switchVerdict]

theorem suffixVerdict_fits {letter : Char} {v : Value} : suffixVerdict letter v = .fits ↔
    ∃ s, v = .text s ∧ s ≠ "" ∧ Text.isName (letter :: s.toList) = true := by
  unfold suffixVerdict
  cases v with
  | text s => simp [suffixFits, Value.given, Value.plain]
  | _ => split <;> simp

theorem attributeVerdict_fits {s : String} : attributeVerdict (.text s) = .fits ↔ Text.isName s.toList = true := by
  simp [attributeVerdict]

theorem headerVerdict_fits {v : Value} : headerVerdict v = .fits ↔
    ∃ s, v = .text s ∧ '\n' ∉ s.toList ∧ '\r' ∉ s.toList := by
  unfold headerVerdict
  cases v with
  | text s => cases broken : s.toList.contains '\n' <;> simp_all [hasLineFeed?, singleLine]
  | list items | tuple items | set items | map entries =>
    cases broken : hasLineFeed? _ with
    | none => cases broken
    | some b => cases b <;> simp
  | _ => simp [hasLineFeed?]

end Fits

section Declaring

variable {env : Environment} {v : Value} {c : Config}

theorem build_passes (made : (build env v).2 = .ok c) : ∀ w ∈ partVerdicts env v, w.stops = false := by
  have stopless := build_stop env v
  rw [made] at stopless
  intro w member
  simpa using List.find?_eq_none.mp stopless.symm w member

theorem logging_values (layered : LogLayered env (inPart? v) c) :
    .text c.logging.level = logValue env v "level" ∧ .text c.logging.format = logValue env v "format" ∧
      c.logging.outputFile = logValue env v "output_file" ∧ c.logging.useColor = logValue env v "use_color" ∧
      c.logging.includeTimestamp = logValue env v "include_timestamp" := by
  simp only [LogLayered, Logging.fields, Logging.default, laidOver, List.map, List.cons.injEq, Prod.mk.injEq] at layered
  exact ⟨layered.1.2, layered.2.1.2, layered.2.2.1.2, layered.2.2.2.1.2, layered.2.2.2.2.1.2⟩

theorem generator_values (layered : GeneratorLayered (inPart? v) c) :
    c.generator.fieldSuffix = nameValue v "field_suffix" ∧
      c.generator.implementationSuffix = nameValue v "implementation_suffix" ∧
      .text c.generator.contextAttribute = nameValue v "context_attribute" ∧
      c.generator.headerComment = nameValue v "header_comment" := by
  simp only [GeneratorLayered, Generator.fields, Generator.default, laidOver, List.map, List.cons.injEq,
    Prod.mk.injEq] at layered
  exact ⟨layered.1.2, layered.2.1.2, layered.2.2.1.2, layered.2.2.2.1.2⟩

theorem namesVerdict_fits {known : List String} {part : Value} (passes : (namesVerdict known part).stops = false) :
    namesVerdict known part = .fits := by
  have other : namesVerdict known part ≠ .slips := by
    unfold namesVerdict
    dsimp only
    repeat' split
    all_goals simp
  cases verdict : namesVerdict known part with
  | fits => rfl
  | slips => exact absurd verdict other
  | refused | escapes =>
    rw [verdict] at passes
    cases passes

theorem shapeVerdict_fits {part : Value} (passes : (shapeVerdict part).stops = false) : shapeVerdict part = .fits := by
  cases part with
  | map entries => rfl
  | _ => cases passes

theorem slips_iff {all : List Verdict} (passes : ∀ w ∈ all, w.stops = false) : .slips ∉ all ↔ ∀ w ∈ all, w = .fits := by
  constructor
  · intro none w member
    cases w with
    | fits => rfl
    | slips => exact absurd member none
    | refused | escapes => cases passes _ member
  · intro fits slipped
    cases fits _ slipped

theorem declared_iff (made : (build env v).2 = .ok c) : c.Declared ↔ .slips ∉ partVerdicts env v := by
  have passes := build_passes made
  obtain ⟨log, generator⟩ := build_layered made
  obtain ⟨level, format, file, color, stamp⟩ := logging_values log
  obtain ⟨field, implementation, context, header⟩ := generator_values generator
  rw [slips_iff passes]
  simp only [partVerdicts, loggingVerdicts, generatorVerdicts, List.cons_append, List.nil_append, List.forall_mem_cons,
    ← level, ← format, ← file, ← color, ← stamp, ← field, ← implementation, ← context, ← header,
    wordVerdict_fits, fileVerdict_fits, switchVerdict_fits, suffixVerdict_fits, attributeVerdict_fits,
    headerVerdict_fits] at passes ⊢
  obtain ⟨names, shape, logNames, logShape, _, _, _, _, _, ownNames, ownShape, _⟩ := passes
  constructor
  · intro declared
    exact ⟨namesVerdict_fits names, shapeVerdict_fits shape, namesVerdict_fits logNames, shapeVerdict_fits logShape,
      declared.level, declared.format, declared.outputFile, declared.useColor, declared.includeTimestamp,
      namesVerdict_fits ownNames, shapeVerdict_fits ownShape, declared.fieldSuffix, declared.implementationSuffix,
      declared.contextAttribute, declared.headerComment, List.forall_mem_nil _⟩
  · rintro ⟨_, _, _, _, level, format, file, color, stamp, _, _, field, implementation, context, header, _⟩
    exact ⟨level, format, file, color, stamp, field, implementation, context, header⟩

theorem build_ends (env : Environment) (v : Value) :
    Ends ((build env v).2.mapError .settings) (decided (partVerdicts env v)) := by
  have stop := build_stop env v
  unfold decided
  rw [← stop]
  cases made : (build env v).2 with
  | ok c =>
    have declared := declared_iff made
    by_cases slipped : .slips ∈ partVerdicts env v
    · simp only [stop?, slipped, if_true]
      exact .slips fun fits => declared.mp fits slipped
    · simp only [stop?, slipped, if_false]
      exact .fits (declared.mpr slipped)
  | error f =>
    cases f with
    | invalid component reason => exact .refused component reason
    | _ => exact .escapes fun _ _ same => by cases same

theorem build_allowed (made : (build env v).2 = .ok c) : c.Allowed := by
  have passes := build_passes made
  obtain ⟨log, generator⟩ := build_layered made
  obtain ⟨level, format, _⟩ := logging_values log
  obtain ⟨_, _, context, _⟩ := generator_values generator
  simp only [partVerdicts, loggingVerdicts, generatorVerdicts, List.cons_append, List.nil_append, List.forall_mem_cons,
    ← level, ← format, ← context] at passes
  obtain ⟨_, _, _, _, word, shape, _, _, _, _, _, _, _, name, _⟩ := passes
  exact ⟨wordVerdict_passes word, wordVerdict_passes shape, attributeVerdict_passes name⟩

end Declaring

section Opening

variable {p : Path} {env : Environment} {tree : Tree}

theorem manifestPart_opening (manifest : isManifest p = true) (d : Value) :
    manifestPart p d = .ok (orEmpty (under? "spec" d)) ∧ Source.openingVerdict ⟨p, d⟩ = .fits ∨
      ∃ component reason, manifestPart p d = .error (.settings (.invalid component reason)) ∧
        Source.openingVerdict ⟨p, d⟩ = .refused := by
  unfold Source.openingVerdict manifestPart refuse
  simp only [manifest, if_true]
  cases d with
  | map entries =>
    simp only [under?]
    generalize orEmpty (Value.find? entries "spec") = spec
    cases Value.find? entries "kind" with
    | none => exact .inr ⟨_, _, rfl, rfl⟩
    | some kind =>
      rw [Option.getD_some]
      cases config : kind.same (.text "Config") with
      | true =>
        obtain rfl := same_text config
        cases spec with
        | map entries => exact .inl ⟨rfl, rfl⟩
        | _ => exact .inr ⟨_, _, rfl, rfl⟩
      | false =>
        refine .inr ⟨_, _, rfl, ?_⟩
        split
        · next same =>
          cases same
          simp [Value.same] at config
        · rfl
  | _ => exact .inr ⟨_, _, rfl, rfl⟩

theorem projectPart_opening (alone : isManifest p = false) (entries : List (Value × Value)) :
    projectPart p entries = .ok (Source.part? ⟨p, .map entries⟩) ∧ Source.openingVerdict ⟨p, .map entries⟩ = .fits ∨
      projectPart p entries = .error (.settings .lacksOperation) ∧
        Source.openingVerdict ⟨p, .map entries⟩ = .escapes := by
  unfold Source.openingVerdict projectPart Source.part? Source.table?
  simp only [alone, Bool.false_eq_true, if_false, under?]
  cases Value.find? entries "tool" with
  | none => exact .inl ⟨rfl, rfl⟩
  | some tool =>
    cases tool with
    | map tools =>
      refine .inl ⟨?_, rfl⟩
      rw [Option.getD_some, Option.bind_some, under?]
      dsimp only
      cases Value.find? tools "daogen" with
      | none => rfl
      | some part => rfl
    | _ => exact .inr ⟨rfl, rfl⟩

theorem decided_fits (rest : List Verdict) : decided (.fits :: rest) = decided rest := by
  have first : first? (.fits :: rest) = first? rest := rfl
  simp [decided, first]

theorem ends_clean (ends : Ends result w) : Clean result ↔ Clear w := by
  cases ends with
  | fits declared => exact iff_of_true (.declared declared) (.inl rfl)
  | slips other => exact iff_of_false (fun | .declared declared => other declared) (by simp [Clear])
  | refused component reason => exact iff_of_true (.refused component reason) (.inr rfl)
  | escapes other => exact iff_of_false (fun | .refused component reason => other component reason rfl) (by simp [Clear])

theorem default_declared : Config.default.Declared := by
  refine ⟨by decide, by decide, .inl rfl, ⟨_, rfl⟩, ⟨_, rfl⟩, ⟨_, rfl, by decide, ?_⟩, ⟨_, rfl, by decide, ?_⟩, ?_,
    ⟨_, rfl, by decide, by decide⟩⟩
  all_goals decide

variable [Yaml.Library]

theorem readConfig_error (failed : readPart tree p = .error f) : (readConfig env tree p).2 = .error f := by
  rw [readConfig, failed]

theorem readConfig_part (read : readPart tree p = .ok part) :
    (readConfig env tree p).2 = part.elim (.ok .default) fun v => (build env (expand env v)).2.mapError .settings := by
  rw [readConfig, read]
  cases part <;> rfl

theorem readConfig_opened {f : Source} (read : readPart tree p = .ok f.part?) (fits : f.openingVerdict = .fits) :
    Ends (readConfig env tree p).2 (decided (f.verdicts env)) := by
  rw [readConfig_part read, Source.verdicts, fits, decided_fits]
  cases f.part? with
  | none => exact .fits default_declared
  | some v => exact build_ends env (expand env v)

theorem readConfig_ends {d : Value} (told : document? tree p = some d) :
    Ends (readConfig env tree p).2 (decided (Source.verdicts ⟨p, d⟩ env)) := by
  rcases readPart_document tree p with ⟨untold, _⟩ | ⟨d', told', ⟨manifest, read⟩ | ⟨alone, entries, same, read⟩⟩
  · rw [untold] at told
    cases told
  · rw [told'] at told
    cases told
    rcases manifestPart_opening manifest d with ⟨made, fits⟩ | ⟨component, reason, failed, refused⟩
    · refine readConfig_opened ?_ fits
      rw [read, made, Source.part?, if_pos manifest]
      rfl
    · rw [failed] at read
      rw [readConfig_error read, Source.verdicts, refused]
      exact .refused component reason
  · rw [told'] at told
    cases told
    subst same
    rcases projectPart_opening alone entries with ⟨made, fits⟩ | ⟨failed, escapes⟩
    · exact readConfig_opened (read.trans made) fits
    · rw [readConfig_error (read.trans failed), Source.verdicts, escapes]
      exact .escapes fun _ _ same => by cases same

theorem readConfig_allowed (read : (readConfig env tree p).2 = .ok c) : c.Allowed := by
  obtain ⟨part, held, _⟩ := readConfig_ok read
  rw [readConfig_part held] at read
  cases part with
  | none =>
    cases read
    exact ⟨default_declared.level, default_declared.format, default_declared.contextAttribute⟩
  | some v =>
    rw [Option.elim_some] at read
    cases made : (build env (expand env v)).2 with
    | error f =>
      rw [made] at read
      cases read
    | ok built =>
      rw [made] at read
      cases read
      exact build_allowed made

structure Judged (result : Except LoadFault Config) (w : Verdict) : Prop where
  ends : Ends result w
  clean : Clean result ↔ Clear w
  allowed : ∀ c, result = .ok c → c.Allowed

theorem readConfig_judged {d : Value} (told : document? tree p = some d) (env : Environment) :
    Judged (readConfig env tree p).2 (decided (Source.verdicts ⟨p, d⟩ env)) :=
  ⟨readConfig_ends told, ends_clean (readConfig_ends told), fun _ => readConfig_allowed⟩

end Opening

section Files

open scoped Yaml.Safe

def soleFile (text : String) : Tree := ⟨[(["log.toml"], .file text)], []⟩

def solePlace : Path := ⟨1, ["log.toml"]⟩

theorem soleFile_read (text : String) : (soleFile text).read solePlace = .ok text := rfl

theorem solePlace_alone : isManifest solePlace = false := by decide +kernel

theorem soleFile_document (parsed : Toml.read? text = some entries) :
    document? (soleFile text) solePlace = some (.map entries) := by
  simp [document?, soleFile_read, solePlace_alone, parsed, Except.toOption]

theorem soleFile_part (parsed : Toml.read? text = some entries) :
    readPart (soleFile text) solePlace = projectPart solePlace entries := by
  simp [readPart, readProject, readText, soleFile_read, solePlace_alone, parsed, Except.mapError, bind, Except.bind]

theorem jsonDebugging_declared : jsonDebugging.Declared := by
  obtain ⟨_, _, file, color, stamp, field, implementation, context, header⟩ := default_declared
  exact ⟨by decide, by decide, file, color, stamp, field, implementation, context, header⟩

theorem jsonFile_judged : document? jsonFile solePlace = some jsonPart ∧
    Clean (readConfig debugging jsonFile solePlace).2 ∧
    Judged (readConfig debugging jsonFile solePlace).2 (decided (Source.verdicts ⟨solePlace, jsonPart⟩ debugging)) := by
  have parsed : Toml.read? "[logging]\nformat = \"json\"\n" =
    some [(.text "logging", .map [(.text "format", .text "json")])] := by cbv
  have document : document? jsonFile solePlace = some jsonPart := soleFile_document parsed
  have clean : Clean (readConfig debugging jsonFile solePlace).2 := by
    have read : (readConfig debugging jsonFile solePlace).2 = .ok jsonDebugging := congrArg Prod.snd jsonFile_read
    rw [read]
    exact .declared jsonDebugging_declared
  exact ⟨document, clean, readConfig_judged document debugging⟩

def switched : String := "[generator]\ncontext_attribute = true\n"

def switchedPart : Value := .map [(.text "generator", .map [(.text "context_attribute", .bool true)])]

-- A truth value for the attribute is not refused: it is asked for what only texts can do.
theorem switched_unclean : document? (soleFile switched) solePlace = some switchedPart ∧
    (readConfig ⟨[]⟩ (soleFile switched) solePlace).2 = .error (.settings .lacksOperation) ∧
      ¬Clean (readConfig ⟨[]⟩ (soleFile switched) solePlace).2 := by
  have parsed : Toml.read? switched = some [(.text "generator", .map [(.text "context_attribute", .bool true)])] := by cbv
  have alone : projectPart solePlace [(.text "generator", .map [(.text "context_attribute", .bool true)])] =
    .ok (some switchedPart) := rfl
  have part : readPart (soleFile switched) solePlace = .ok (some switchedPart) := (soleFile_part parsed).trans alone
  have plain : expand ⟨[]⟩ switchedPart = switchedPart := by cbv
  have failed : (readConfig ⟨[]⟩ (soleFile switched) solePlace).2 = .error (.settings .lacksOperation) := by
    rw [readConfig_part part, Option.elim_some, plain]
    rfl
  refine ⟨soleFile_document parsed, failed, ?_⟩
  rw [failed]
  rintro ⟨⟩

end Files

end DaoMapper.Settings
