import DaoMapper.Proofs.Layers

-- Which file of settings is found where none is asked for: the one that a variable names, the
-- project file here, or the nearest one above that says anything about settings.
namespace DaoMapper.Settings

open Files (Path Tree)

def projectAt (place : List String) : Path := ⟨1, place ++ [projectFile]⟩

structure Above (place here : List String) : Prop where
  start : place <+: here
  other : place ≠ here

def toolTable? (document : List (Value × Value)) : Option Value := (Value.find? document "tool").bind (under? "daogen")

inductive Finding where
  | silent
  | settings (part : Value)
  | unreadable (f : LoadFault)

def Finding.answer (place : List String) : Finding → Except LoadFault Path
  | .silent => .error .nowhere
  | .settings _ => .ok (projectAt place)
  | .unreadable f => .error f

def saidBy (document : List (Value × Value)) : Finding :=
  match toolTable? document with
  | some part => if part.given then .settings part else .silent
  | none => .silent

-- What is there and is no document cannot be read.
def toldAt (tree : Tree) (place : List String) : Finding :=
  if tree.has (projectAt place) then
    match tree.read (projectAt place) with
    | .error f => .unreadable (.file f)
    | .ok text => ((Toml.read? text).map saidBy).getD (.unreadable .toml)
  else .silent

def Holds (tree : Tree) (place : List String) (document : List (Value × Value)) : Prop :=
  ∃ text, tree.read (projectAt place) = .ok text ∧ Toml.read? text = some document

-- A document that has something else than tables under the name of all tools.
def Twisted (tree : Tree) (place : List String) : Prop :=
  ∃ document v, Holds tree place document ∧ Value.find? document "tool" = some v ∧ ∀ tools, v ≠ .map tools

def Unnamed (env : Environment) (tree : Tree) : Prop :=
  ∀ text, env.given? "DAOGEN_CONFIG_PATH" = some text → tree.has (.ofText text) = false

-- A directory that a search upwards comes to: nothing nearer tells anything.
structure Reached (env : Environment) (tree : Tree) (place : List String) : Prop where
  unnamed : Unnamed env tree
  bare : tree.has projectPath = false
  above : Above place tree.current
  nearer : ∀ other, Above other tree.current → place.length < other.length → toldAt tree other = .silent

inductive Sought (env : Environment) (tree : Tree) : Except LoadFault Path → Prop where
  | named (given : env.given? "DAOGEN_CONFIG_PATH" = some text) (there : tree.has (.ofText text) = true) :
      Sought env tree (.ok (.ofText text))
  | here (unnamed : Unnamed env tree) (there : tree.has projectPath = true) : Sought env tree (.ok projectPath)
  | above (reached : Reached env tree place) (tells : toldAt tree place = .settings part) :
      Sought env tree (.ok (projectAt place))
  | stopped (reached : Reached env tree place) (tells : toldAt tree place = .unreadable f) : Sought env tree (.error f)
  | nowhere (unnamed : Unnamed env tree) (bare : tree.has projectPath = false)
      (silent : ∀ place, Above place tree.current → toldAt tree place = .silent) : Sought env tree (.error .nowhere)

structure Quiet (tree : Tree) (place : List String) : Prop where
  silent : toldAt tree place = .silent
  straight : ¬Twisted tree place

inductive Decides (tree : Tree) (place : List String) : Except LoadFault Path → Prop where
  | settings (tells : toldAt tree place = .settings part) : Decides tree place (.ok (projectAt place))
  | unreadable (tells : toldAt tree place = .unreadable f) : Decides tree place (.error f)
  | twisted (twisted : Twisted tree place) : Decides tree place (.error (.settings .lacksOperation))

section Ancestors

variable {place other here : List String}

theorem above_iff : place ∈ above here ↔ Above place here := by
  simp only [above, List.mem_map, List.mem_reverse, List.mem_range]
  constructor
  · rintro ⟨n, short, rfl⟩
    refine ⟨List.take_prefix n here, fun same => ?_⟩
    have length := congrArg List.length same
    rw [List.length_take] at length
    omega
  · intro above
    obtain ⟨rest, rfl⟩ := above.start
    have more : rest ≠ [] := by
      rintro rfl
      exact above.other (by simp)
    exact ⟨place.length, by simpa [List.length_pos_iff] using more, by simp⟩

theorem above_ordered (here : List String) : (above here).Pairwise fun a b => b.length < a.length := by
  rw [above, List.pairwise_map, List.pairwise_reverse]
  refine List.pairwise_lt_range.imp_of_mem ?_
  intro m n first second less
  simp only [List.mem_range] at first second
  simp only [List.length_take]
  omega

theorem Above.same (one : Above place here) (two : Above other here) (long : place.length = other.length) :
    place = other := by
  rw [List.prefix_iff_eq_take.mp one.start, List.prefix_iff_eq_take.mp two.start, long]

theorem nearest_other (P : List String → Prop) (here : List String) :
    (∀ place, Above place here → P place) ∨
      ∃ place, Above place here ∧ ¬P place ∧ ∀ other, Above other here → place.length < other.length → P other := by
  classical
  by_cases all : ∀ place, Above place here → P place
  · exact .inl all
  · push Not at all
    obtain ⟨first, above, without⟩ := all
    obtain ⟨place, among, longest⟩ := ((Settings.above here).toFinset.filter (¬P ·)).exists_max_image List.length
      ⟨first, by simpa [above_iff] using ⟨above, without⟩⟩
    simp only [Finset.mem_filter, List.mem_toFinset, above_iff] at among longest
    refine .inr ⟨place, among.1, among.2, fun other above long => ?_⟩
    by_contra without
    exact absurd (longest other ⟨above, without⟩) (by omega)

end Ancestors

section Reading

variable {tree : Tree} {place : List String} {document : List (Value × Value)} {part : Value}

theorem projectAt_alone (place : List String) : isManifest (projectAt place) = false := by
  have suffix : (projectAt place).suffix = Path.suffix ⟨0, [projectFile]⟩ := by
    simp [Path.suffix, Path.name, projectAt]
  rw [isManifest, suffix]
  rfl

theorem projectAt_name (place : List String) : (projectAt place).name = projectFile := by
  simp [projectAt, Path.name]

theorem read_there {p : Path} {text : String} (read : tree.read p = .ok text) : tree.has p = true := by
  unfold Tree.read at read
  rw [Tree.has]
  cases place : tree.resolve p with
  | error f =>
    rw [place] at read
    cases read
  | ok found => rfl

theorem Holds.there (holds : Holds tree place document) : tree.has (projectAt place) = true := by
  obtain ⟨text, read, _⟩ := holds
  exact read_there read

theorem Holds.told (holds : Holds tree place document) : toldAt tree place = saidBy document := by
  obtain ⟨text, read, parsed⟩ := holds
  rw [toldAt, if_pos (read_there read), read]
  simp only [parsed, Option.map_some, Option.getD_some]

theorem Holds.readProject (holds : Holds tree place document) :
    readProject tree (projectAt place) = projectPart (projectAt place) document := by
  obtain ⟨text, read, parsed⟩ := holds
  rw [Settings.readProject, readText, read]
  simp only [Except.mapError, bind, Except.bind, parsed]

theorem told_settings (tells : toldAt tree place = .settings part) :
    ∃ document, Holds tree place document ∧ toolTable? document = some part ∧ part.given = true := by
  unfold toldAt at tells
  split at tells
  · split at tells
    · cases tells
    · rename_i text read
      cases parsed : Toml.read? text with
      | none =>
        rw [parsed] at tells
        cases tells
      | some document =>
        rw [parsed, Option.map_some, Option.getD_some, saidBy] at tells
        split at tells
        · rename_i table
          split at tells
          · rename_i given
            cases tells
            exact ⟨document, ⟨text, read, parsed⟩, table, given⟩
          · cases tells
        · cases tells
  · cases tells

theorem saidBy_readable (document : List (Value × Value)) (f : LoadFault) : saidBy document ≠ .unreadable f := by
  unfold saidBy
  split
  · split <;> simp
  · simp

theorem told_opened {f : Fault} : toldAt tree place ≠ .unreadable (.settings f) := by
  unfold toldAt
  split
  · split
    · simp
    · rename_i text _
      cases Toml.read? text with
      | none => simp
      | some document => simpa using saidBy_readable document (.settings f)
  · simp

theorem Twisted.silent (twisted : Twisted tree place) : toldAt tree place = .silent := by
  obtain ⟨document, v, holds, tool, noTable⟩ := twisted
  have table : toolTable? document = none := by
    rw [toolTable?, tool, Option.bind_some]
    unfold under?
    split
    · exact absurd rfl (noTable _)
    · rfl
  rw [holds.told, saidBy, table]

theorem Holds.twisted_iff (holds : Holds tree place document) :
    Twisted tree place ↔ ∃ v, Value.find? document "tool" = some v ∧ ∀ tools, v ≠ .map tools := by
  constructor
  · rintro ⟨other, v, ⟨text, read, parsed⟩, tool, noTable⟩
    obtain ⟨text', read', parsed'⟩ := holds
    cases read.symm.trans read'
    cases parsed.symm.trans parsed'
    exact ⟨v, tool, noTable⟩
  · rintro ⟨v, tool, noTable⟩
    exact ⟨document, v, holds, tool, noTable⟩

theorem projectPart_tells (holds : Holds tree place document) :
    projectPart (projectAt place) document = .ok none ∧ Quiet tree place ∨
      (∃ part, projectPart (projectAt place) document = .ok (some part) ∧ toldAt tree place = .settings part) ∨
      projectPart (projectAt place) document = .error (.settings .lacksOperation) ∧ Twisted tree place := by
  have told := holds.told
  rw [saidBy] at told
  cases tool : Value.find? document "tool" with
  | none =>
    rw [toolTable?, tool, Option.bind_none] at told
    refine .inl ⟨?_, told, by simp [holds.twisted_iff, tool]⟩
    rw [projectPart, tool]
    simp [Value.find?, projectAt_name]
  | some v =>
    cases v with
    | map tools =>
      have straight : ¬Twisted tree place := by simp [holds.twisted_iff, tool]
      have table : toolTable? document = Value.find? tools "daogen" := by rw [toolTable?, tool]; rfl
      rw [table] at told
      cases there : Value.find? tools "daogen" with
      | none =>
        rw [there] at told
        exact .inl ⟨by simp [projectPart, tool, there, projectAt_name], told, straight⟩
      | some part =>
        simp only [there] at told
        cases given : part.given with
        | true =>
          rw [given, if_pos rfl] at told
          exact .inr (.inl ⟨part, by simp [projectPart, tool, there, given], told⟩)
        | false =>
          rw [given, if_neg (by simp)] at told
          exact .inl ⟨by simp [projectPart, tool, there, given], told, straight⟩
    | _ =>
      refine .inr (.inr ⟨?_, document, _, holds, tool, by simp⟩)
      rw [projectPart, tool]
      rfl

end Reading

section Searching

variable {env : Environment} {tree : Tree} {place : List String}

theorem nearestProject_step (tree : Tree) (place : List String) (rest : List (List String)) :
    Quiet tree place ∧ nearestProject tree (place :: rest) = nearestProject tree rest ∨
      Decides tree place (nearestProject tree (place :: rest)) := by
  rw [nearestProject, ← projectAt]
  cases there : tree.has (projectAt place) with
  | false =>
    rw [if_neg (by simp)]
    refine .inl ⟨⟨by rw [toldAt, there]; rfl, ?_⟩, rfl⟩
    rintro ⟨document, _, holds, _⟩
    exact absurd holds.there (by simp [there])
  | true =>
    rw [if_pos rfl]
    cases read : tree.read (projectAt place) with
    | error f =>
      have opened : readProject tree (projectAt place) = .error (.file f) := by
        rw [readProject, readText, read]
        rfl
      rw [opened]
      exact .inr (.unreadable (by rw [toldAt, if_pos there, read]))
    | ok text =>
      cases parsed : Toml.read? text with
      | none =>
        have opened : readProject tree (projectAt place) = .error .toml := by
          rw [readProject, readText, read]
          simp only [Except.mapError, bind, Except.bind, parsed]
          rfl
        rw [opened]
        exact .inr (.unreadable (by rw [toldAt, if_pos there, read]; simp [parsed]))
      | some document =>
        have holds : Holds tree place document := ⟨text, read, parsed⟩
        rw [holds.readProject]
        obtain ⟨made, quiet⟩ | ⟨part, made, tells⟩ | ⟨made, twisted⟩ := projectPart_tells holds
        all_goals rw [made]
        · exact .inl ⟨quiet, rfl⟩
        · exact .inr (.settings tells)
        · exact .inr (.twisted twisted)

theorem nearestProject_ends (tree : Tree) (places : List (List String)) :
    (∀ place ∈ places, Quiet tree place) ∧ nearestProject tree places = .error .nowhere ∨
      ∃ nearer place farther, places = nearer ++ place :: farther ∧ (∀ other ∈ nearer, Quiet tree other) ∧
        Decides tree place (nearestProject tree places) := by
  induction places with
  | nil => exact .inl ⟨by simp, rfl⟩
  | cons place rest ih =>
    obtain ⟨quiet, same⟩ | decides := nearestProject_step tree place rest
    · rw [same]
      obtain ⟨all, nothing⟩ | ⟨nearer, found, farther, split, passed, decides⟩ := ih
      · exact .inl ⟨List.forall_mem_cons.mpr ⟨quiet, all⟩, nothing⟩
      · refine .inr ⟨place :: nearer, found, farther, by rw [split]; rfl, ?_, decides⟩
        exact List.forall_mem_cons.mpr ⟨quiet, passed⟩
    · exact .inr ⟨[], place, rest, rfl, by simp, decides⟩

-- As `nearestProject_ends`, by the lengths of the directories above.
theorem nearestProject_above (tree : Tree) (here : List String) :
    (∀ place, Above place here → Quiet tree place) ∧ nearestProject tree (above here) = .error .nowhere ∨
      ∃ place, Above place here ∧ (∀ other, Above other here → place.length < other.length → Quiet tree other) ∧
        Decides tree place (nearestProject tree (above here)) := by
  obtain ⟨all, nothing⟩ | ⟨nearer, place, farther, split, passed, decides⟩ := nearestProject_ends tree (above here)
  · exact .inl ⟨fun place above => all place (above_iff.mpr above), nothing⟩
  · refine .inr ⟨place, above_iff.mp (by simp [split]), ?_, decides⟩
    intro other above long
    have among : other ∈ nearer ++ place :: farther := split ▸ above_iff.mpr above
    have ordered := split ▸ above_ordered here
    simp only [List.pairwise_append, List.pairwise_cons] at ordered
    simp only [List.mem_append, List.mem_cons] at among
    obtain before | rfl | after := among
    · exact passed other before
    · omega
    · have short := ordered.2.1.1 other after
      omega

theorem locate_named {text : String} (given : env.given? "DAOGEN_CONFIG_PATH" = some text)
    (there : tree.has (.ofText text) = true) : (locate env tree none).2 = .ok (.ofText text) := by
  simp [locate, given, there]

theorem locate_unnamed (unnamed : Unnamed env tree) : (locate env tree none).2 = locateProject tree := by
  cases given : env.given? "DAOGEN_CONFIG_PATH" with
  | none => simp [locate, given]
  | some text => simp [locate, given, unnamed text given]

theorem Reached.same {other : List String} (one : Reached env tree place) (two : Reached env tree other)
    (loud : toldAt tree place ≠ .silent) (loud' : toldAt tree other ≠ .silent) : place = other := by
  obtain less | long | less := Nat.lt_trichotomy place.length other.length
  · exact absurd (one.nearer other two.above less) loud'
  · exact one.above.same two.above long
  · exact absurd (two.nearer place one.above less) loud

theorem Unnamed.absurd {p : Prop} {text : String} (unnamed : Unnamed env tree)
    (given : env.given? "DAOGEN_CONFIG_PATH" = some text) (there : tree.has (.ofText text) = true) : p := by
  rw [unnamed text given] at there
  cases there

theorem Sought.loud {r : Except LoadFault Path} (sought : Sought env tree r) (reached : Reached env tree place)
    (loud : toldAt tree place ≠ .silent) : r = (toldAt tree place).answer place := by
  cases sought with
  | named given there => exact reached.unnamed.absurd given there
  | here _ there => exact absurd there (by simp [reached.bare])
  | nowhere _ _ silent => exact absurd (silent place reached.above) loud
  | above reached' tells | stopped reached' tells =>
    cases reached.same reached' loud (by simp [tells])
    rw [tells, Finding.answer]

theorem Sought.same {r r' : Except LoadFault Path} (one : Sought env tree r) (two : Sought env tree r') : r = r' := by
  cases two with
  | above reached tells | stopped reached tells =>
    have first := one.loud reached (by simp [tells])
    rwa [tells] at first
  | named given there =>
    cases one with
    | named given' there' => cases given.symm.trans given'; rfl
    | here unnamed _ | nowhere unnamed _ _ => exact unnamed.absurd given there
    | above reached _ | stopped reached _ => exact reached.unnamed.absurd given there
  | here unnamed there =>
    cases one with
    | named given there => exact unnamed.absurd given there
    | here _ _ => rfl
    | nowhere _ bare _ => exact absurd there (by simp [bare])
    | above reached _ | stopped reached _ => exact absurd there (by simp [reached.bare])
  | nowhere unnamed bare silent =>
    cases one with
    | named given there => exact unnamed.absurd given there
    | here _ there => exact absurd there (by simp [bare])
    | nowhere _ _ _ => rfl
    | above reached tells | stopped reached tells => exact absurd (silent _ reached.above) (by simp [tells])

theorem straight_reached (above : Above place tree.current) (loud : toldAt tree place ≠ .silent)
    (nearer : ∀ other, Above other tree.current → place.length < other.length → ¬Twisted tree other) :
    ¬∃ other, Reached env tree other ∧ Twisted tree other := by
  rintro ⟨other, reached, twisted⟩
  obtain less | long | less := Nat.lt_trichotomy place.length other.length
  · exact nearer other reached.above less twisted
  · cases above.same reached.above long
    exact loud twisted.silent
  · exact loud (reached.nearer place above less)

theorem sought_some (env : Environment) (tree : Tree) : ∃ r, Sought env tree r := by
  by_cases unnamed : Unnamed env tree
  · cases bare : tree.has projectPath with
    | true => exact ⟨_, .here unnamed bare⟩
    | false =>
      obtain silent | ⟨place, above, loud, nearer⟩ := nearest_other (toldAt tree · = .silent) tree.current
      · exact ⟨_, .nowhere unnamed bare silent⟩
      · have reached : Reached env tree place := ⟨unnamed, bare, above, nearer⟩
        cases tells : toldAt tree place with
        | silent => exact absurd tells loud
        | settings part => exact ⟨_, .above reached tells⟩
        | unreadable f => exact ⟨_, .stopped reached tells⟩
  · simp only [Unnamed, not_forall, Bool.not_eq_false] at unnamed
    obtain ⟨text, given, there⟩ := unnamed
    exact ⟨_, .named given there⟩

-- A search ends in the order of the files, or at a document without a table of all tools that it comes to.
theorem locate_ends (env : Environment) (tree : Tree) :
    (Sought env tree (locate env tree none).2 ∧ ¬∃ place, Reached env tree place ∧ Twisted tree place) ∨
      (locate env tree none).2 = .error (.settings .lacksOperation) ∧ ∃ place, Reached env tree place ∧ Twisted tree place := by
  by_cases unnamed : Unnamed env tree
  · rw [locate_unnamed unnamed, locateProject]
    cases bare : tree.has projectPath with
    | true =>
      rw [if_pos rfl]
      refine .inl ⟨.here unnamed bare, ?_⟩
      rintro ⟨place, reached, _⟩
      exact absurd bare (by simp [reached.bare])
    | false =>
      rw [if_neg (by simp)]
      obtain ⟨quiet, nothing⟩ | ⟨place, above, nearer, decides⟩ := nearestProject_above tree tree.current
      · rw [nothing]
        refine .inl ⟨.nowhere unnamed bare fun place above => (quiet place above).silent, ?_⟩
        rintro ⟨place, reached, twisted⟩
        exact (quiet place reached.above).straight twisted
      · have reached : Reached env tree place := ⟨unnamed, bare, above, fun o a long => (nearer o a long).silent⟩
        have straight (loud : toldAt tree place ≠ .silent) : ¬∃ other, Reached env tree other ∧ Twisted tree other :=
          straight_reached above loud fun o a long => (nearer o a long).straight
        generalize nearestProject tree (Settings.above tree.current) = result at decides
        cases decides with
        | settings tells => exact .inl ⟨.above reached tells, straight (by simp [tells])⟩
        | unreadable tells => exact .inl ⟨.stopped reached tells, straight (by simp [tells])⟩
        | twisted twisted => exact .inr ⟨rfl, place, reached, twisted⟩
  · simp only [Unnamed, not_forall, Bool.not_eq_false] at unnamed
    obtain ⟨text, given, there⟩ := unnamed
    rw [locate_named given there]
    refine .inl ⟨.named given there, ?_⟩
    rintro ⟨place, reached, _⟩
    exact reached.unnamed.absurd given there

theorem Sought.opened {f : Fault} : ¬Sought env tree (.error (.settings f)) := by
  intro sought
  cases sought with
  | stopped _ tells => exact told_opened tells

variable [Yaml.Library]

-- What a file tells that is found above is read again, so that no usual settings stand in for it.
theorem readConfig_told {part : Value} (tells : toldAt tree place = .settings part) :
    readConfig env tree (projectAt place) =
      (⟨.info, loggerName, "Loading configuration from " ++ (projectAt place).text⟩ :: (build env (expand env part)).1,
        (build env (expand env part)).2.mapError .settings) := by
  obtain ⟨document, holds, table, given⟩ := told_settings tells
  have made : projectPart (projectAt place) document = .ok (some part) := by
    obtain ⟨_, quiet⟩ | ⟨part', made, tells'⟩ | ⟨_, twisted⟩ := projectPart_tells holds
    · exact absurd quiet.silent (by simp [tells])
    · cases tells.symm.trans tells'
      exact made
    · exact absurd twisted.silent (by simp [tells])
  have read : readPart tree (projectAt place) = .ok (some part) := by
    rw [readPart, projectAt_alone, if_neg (by simp), holds.readProject, made]
  rw [readConfig, read]
  rfl

theorem load_nowhere (nothing : (locate env tree none).2 = .error .nowhere) (s : Store) :
    (s.load env tree none).2 = (.ok ⟨s.count, .default⟩, { s with count := s.count + 1 }) := by
  obtain ⟨⟨events, answer⟩, located⟩ : ∃ located, locate env tree none = located := ⟨_, rfl⟩
  cases (by simpa [located] using nothing : answer = .error .nowhere)
  rw [Store.load, Store.loadFile, located]
  rfl

end Searching

structure Discovers [Yaml.Library] (env : Environment) (tree : Tree) : Prop where
  one : ∃! r, Sought env tree r
  ordered : Sought env tree (locate env tree none).2 ↔ ¬∃ place, Reached env tree place ∧ Twisted tree place
  broken : (∃ place, Reached env tree place ∧ Twisted tree place) →
    (locate env tree none).2 = .error (.settings .lacksOperation)
  told : toldAt tree place = .settings part → readConfig env tree (projectAt place) =
    (⟨.info, loggerName, "Loading configuration from " ++ (projectAt place).text⟩ :: (build env (expand env part)).1,
      (build env (expand env part)).2.mapError .settings)
  usual : (locate env tree none).2 = .error .nowhere → ∀ s : Store,
    (s.load env tree none).2 = (.ok ⟨s.count, .default⟩, { s with count := s.count + 1 })

-- Files are looked for in their order as long as each document that the search comes to has a table of all
-- tools, or nothing under that name.
theorem locate_discovers [Yaml.Library] (env : Environment) (tree : Tree) : Discovers env tree where
  one := by
    obtain ⟨r, sought⟩ := sought_some env tree
    exact ⟨r, sought, fun _ other => other.same sought⟩
  ordered := by
    obtain ⟨sought, straight⟩ | ⟨broken, twisted⟩ := locate_ends env tree
    · exact ⟨fun _ => straight, fun _ => sought⟩
    · rw [broken]
      exact ⟨fun sought => absurd sought Sought.opened, fun straight => absurd twisted straight⟩
  broken twisted := by
    obtain ⟨_, straight⟩ | ⟨broken, _⟩ := locate_ends env tree
    · exact absurd twisted straight
    · exact broken
  told := readConfig_told
  usual := load_nowhere

section Trees

open scoped Yaml.Safe

def upward : Tree :=
  ⟨[(["pyproject.toml"], .file "[tool.daogen.logging]\n"), (["a"], .directory),
    (["a", "pyproject.toml"], .file "[tool.other]\n"), (["a", "b"], .directory)], ["a", "b"]⟩

theorem upward_near : Holds upward ["a"] [(.text "tool", .map [(.text "other", .map [])])] :=
  ⟨"[tool.other]\n", rfl, by cbv⟩

theorem upward_far : Holds upward [] [(.text "tool", .map [(.text "daogen", .map [(.text "logging", .map [])])])] :=
  ⟨"[tool.daogen.logging]\n", rfl, by cbv⟩

theorem upward_above {other : List String} (above : Above other upward.current) : other = ["a"] ∨ other = [] := by
  have among := above_iff.mpr above
  rw [show Settings.above upward.current = [["a"], []] by decide] at among
  simpa using among

theorem upward_tells : toldAt upward [] = .settings (.map [(.text "logging", .map [])]) := by
  rw [upward_far.told]
  rfl

theorem upward_reached : Reached ⟨[]⟩ upward [] where
  unnamed := by
    intro text given
    cases given
  bare := rfl
  above := ⟨by simp, by simp [upward]⟩
  nearer other above long := by
    obtain rfl | rfl := upward_above above
    · rw [upward_near.told]
      rfl
    · simp at long

theorem upward_discovers : (locate ⟨[]⟩ upward none).2 = .ok (projectAt []) := by
  have straight : ¬∃ place, Reached ⟨[]⟩ upward place ∧ Twisted upward place := by
    refine straight_reached upward_reached.above (by simp [upward_tells]) fun other above long => ?_
    obtain rfl | rfl := upward_above above
    · rw [upward_near.twisted_iff]
      rintro ⟨v, tool, noTable⟩
      cases tool
      exact noTable _ rfl
    · simp at long
  have discovers := locate_discovers ⟨[]⟩ upward
  exact discovers.one.unique (discovers.ordered.mpr straight) (.above upward_reached upward_tells)

-- A project above whose tools are no table, where the order of the files finds nothing.
def toolless : Tree := ⟨[(["pyproject.toml"], .file "tool = true\n"), (["a"], .directory)], ["a"]⟩

theorem toolless_holds : Holds toolless [] [(.text "tool", .bool true)] := ⟨"tool = true\n", rfl, by cbv⟩

theorem toolless_twisted : Twisted toolless [] := ⟨_, .bool true, toolless_holds, rfl, by simp⟩

theorem toolless_above {other : List String} (above : Above other toolless.current) : other = [] := by
  have among := above_iff.mpr above
  rw [show Settings.above toolless.current = [[]] by decide] at among
  simpa using among

theorem toolless_unnamed : Unnamed ⟨[]⟩ toolless := by
  intro text given
  cases given

theorem toolless_unsought :
    Sought ⟨[]⟩ toolless (.error .nowhere) ∧ (locate ⟨[]⟩ toolless none).2 = .error (.settings .lacksOperation) ∧
      ¬Sought ⟨[]⟩ toolless (.error (.settings .lacksOperation)) := by
  have bare : toolless.has projectPath = false := rfl
  refine ⟨.nowhere toolless_unnamed bare fun place above => ?_, ?_, Sought.opened⟩
  · cases toolless_above above
    exact toolless_twisted.silent
  · rw [locate_unnamed toolless_unnamed, locateProject, bare, if_neg (by simp),
      show Settings.above toolless.current = [[]] by decide, nearestProject, ← projectAt, toolless_holds.there,
      if_pos rfl, toolless_holds.readProject]
    rfl

end Trees

end DaoMapper.Settings