import DaoMapper.Proofs.Classified

-- How a scan ends: refused as a whole, given up at the first method that has a fault, or
-- with a declaration that leaves the methods out that cannot be read. The others are read
-- as they are without them.
namespace DaoMapper.Interface

open Mapper (Declaration FactoryMethod Refusal Report)

-- What ends the scan of a mapper at one of its methods, by the kind of the exception.
inductive Aborts (h : Hierarchy) (c : ClassId) (name : String) : String → Prop where
  | unread (found : h.attribute? c name = some (.function f isAbstract)) (fault : f.fault = some (.raised kind)) :
      Aborts h c name kind
  | noArgument (declares : Declares h c name f) (gives : f.returns = some form) (stops : unwrap form = .error kind) :
      Aborts h c name kind
  | noText (declares : Declares h c name f) (gives : f.returns = some form)
      (unwraps : unwrap form = .ok (result, isAsync)) (foreign : result.class? = none)
      (text : form.shown h.type = .error kind) : Aborts h c name kind
  | implementer (gives : Gives h c name f dao isAsync)
      (baulks : Baulks (Mapper.initName isAsync) (h.implementation dao) kind) : Aborts h c name kind
  | parameter (builds : Builds h c name f dao isAsync) (split : f.parameters.tail = front ++ q :: back)
      (sound : ∀ x ∈ front, (h.parameter (h.place c name) x).isOk = true) (raises : Raises h q kind) :
      Aborts h c name kind
  | noReference (builds : Builds h c name f dao isAsync)
      (sound : ∀ q ∈ f.parameters.tail, (h.parameter (h.place c name) q).isOk = true)
      (text : h.implementerRef (h.implementation dao) = .error kind) : Aborts h c name kind

theorem readParameters_ok {h : Hierarchy} {f : FunctionDecl} :
    (∃ parameters, h.readParameters location f = .ok parameters) ↔
      ∀ q ∈ f.parameters.tail, (h.parameter location q).isOk = true := by
  constructor
  · intro all q member
    obtain ⟨parameters, all⟩ := all
    obtain ⟨p, _, read⟩ := forall₂_left (mapM_ok all) member
    rw [read]
    rfl
  · intro sound
    cases all : h.readParameters location f with
    | ok parameters => exact ⟨parameters, rfl⟩
    | error fault =>
      obtain ⟨front, q, back, split, _, failed⟩ := mapM_error_iff.mp all
      have fine := sound q (by simp [split])
      rw [failed] at fine
      cases fine

theorem method_raised_iff {h : Hierarchy} : h.method c name = .error (.raised kind) ↔ Aborts h c name kind := by
  constructor
  · intro read
    have reads := method_reads h c name
    rw [read] at reads
    cases reads with
    | unread found fault => exact .unread found fault
    | noArgument declares gives stops => exact .noArgument declares gives stops
    | noText declares gives unwraps foreign text => exact .noText declares gives unwraps foreign text
    | noBuilder gives lacks =>
      rcases builder_error lacks with ⟨raised, same, baulks⟩ | ⟨message, skipped⟩
      · cases same
        exact .implementer gives baulks
      · cases skipped
    | badParameter builds stops =>
      obtain ⟨front, q, back, split, sound, stopped⟩ := mapM_error_iff.mp stops
      exact .parameter builds split sound (parameter_raised_iff.mp stopped)
    | noReference builds all text => exact .noReference builds (readParameters_ok.mp ⟨_, all⟩) text
  · intro aborts
    apply reads_method
    cases aborts with
    | unread found fault => exact .unread found fault
    | noArgument declares gives stops => exact .noArgument declares gives stops
    | noText declares gives unwraps foreign text => exact .noText declares gives unwraps foreign text
    | implementer gives baulks => exact .noBuilder gives (builder_baulks baulks)
    | parameter builds split sound raises =>
      apply Reads.badParameter builds
      exact mapM_error_iff.mpr ⟨_, _, _, split, sound, parameter_raised_iff.mpr raises⟩
    | noReference builds sound text =>
      obtain ⟨parameters, all⟩ := readParameters_ok.mpr sound
      exact .noReference builds all text

theorem fault_iff {h : Hierarchy} : h.fault? c name = some kind ↔ Aborts h c name kind := by
  rw [← method_raised_iff]
  unfold Hierarchy.fault?
  split
  · rename_i read
    simp [read]
  · rename_i other
    constructor
    · intro none
      cases none
    · intro raised
      exact absurd raised (other kind)

theorem sound_iff {h : Hierarchy} : h.fault? c name = none ↔ ∀ kind, ¬ Aborts h c name kind := by
  rw [Option.eq_none_iff_forall_ne_some]
  exact forall_congr' fun kind => not_congr fault_iff

namespace Hierarchy

-- The same classes, where some names are not abstract to one of them any more.
def sparing (h : Hierarchy) (c : ClassId) (kept : String → Bool) : Hierarchy :=
  ⟨h.classes.modify c fun info => { info with abstract := info.abstract.filter kept }⟩

section sparing

variable (h : Hierarchy) (c : ClassId) (kept : String → Bool)

theorem sparing_same {α : Type} (view : ClassInfo → α) (same : ∀ info names, view { info with abstract := names } = view info)
    (a : ClassId) : (h.sparing c kept).classes[a]?.map view = h.classes[a]?.map view := by
  rw [sparing, Array.getElem?_modify]
  split
  · cases h.classes[a]? <;> simp [same]
  · rfl

theorem sparing_line : (h.sparing c kept).lineOf = h.lineOf := by
  funext a
  rw [lineOf, lineOf, h.sparing_same c kept (·.line) (fun _ _ => rfl)]

theorem sparing_attributes : (h.sparing c kept).attributesOf = h.attributesOf := by
  funext a
  rw [attributesOf, attributesOf, h.sparing_same c kept (·.decl.attributes) (fun _ _ => rfl)]

theorem sparing_type : (h.sparing c kept).type = h.type := by
  funext a
  rw [type, type, h.sparing_same c kept (·.decl.type) (fun _ _ => rfl)]

theorem sparing_declared (a : ClassId) : (h.sparing c kept).classes[a]?.bind (·.decl.implementation) =
    h.classes[a]?.bind (·.decl.implementation) := by
  have same := h.sparing_same c kept (·.decl.implementation) (fun _ _ => rfl) a
  simpa [Option.bind_map, Function.comp_def] using congrArg (·.bind id) same

theorem sparing_abstract : (h.sparing c kept).abstractOf c = (h.abstractOf c).filter kept := by
  rw [abstractOf, abstractOf, sparing, Array.getElem?_modify, if_pos rfl]
  cases h.classes[c]? <;> simp

theorem sparing_attribute : (h.sparing c kept).attribute? = h.attribute? := by
  funext a name
  simp only [attribute?, attributeAlong, sparing_line, sparing_attributes]

theorem sparing_implementation : (h.sparing c kept).implementation = h.implementation := by
  have implementer : (h.sparing c kept).implementer? = h.implementer? := by
    funext a
    have member : (h.sparing c kept).memberImplementer a = h.memberImplementer a := by
      funext defined
      simp only [memberImplementer, sparing_type]
    simp only [implementer?, sparing_attributes, sparing_declared, member]
  funext a
  simp only [implementation, sparing_line, implementer]

theorem sparing_method : (h.sparing c kept).method = h.method := by
  have builder : (h.sparing c kept).builder = h.builder := by
    funext location init i
    simp only [Hierarchy.builder, sparing_attribute, sparing_type]
  have default : (h.sparing c kept).defaultOf = h.defaultOf := by
    funext location default?
    cases default? <;> simp only [Hierarchy.defaultOf, sparing_type]
  have parameter : (h.sparing c kept).parameter = h.parameter := by
    funext location q
    simp only [Hierarchy.parameter, sparing_type, default]
  have reference : (h.sparing c kept).implementerRef = h.implementerRef := by
    funext i
    cases i <;> simp only [implementerRef, sparing_type]
  funext mapper name
  simp only [method, sparing_attribute, sparing_implementation, sparing_type, builder, parameter, reference]

theorem sparing_names (a : ClassId) : (h.sparing c kept).namesInOrder a = h.namesInOrder a := by
  simp only [namesInOrder, membersAlong, sparing_line, sparing_attributes]

theorem sparing_members (a : ClassId) : (h.sparing c kept).membersOf a = h.membersOf a := by
  simp only [membersOf, sparing_names, sparing_line, sparing_declared]

theorem sparing_order : (h.sparing c kept).abstractInOrder c = (h.abstractInOrder c).filter kept := by
  rw [abstractInOrder, abstractInOrder, sparing_names, sparing_abstract, List.filter_filter]
  apply List.filter_congr
  intro name _
  rw [Bool.eq_iff_iff]
  simp [and_comm]

end sparing

theorem Declared.abstract_none {h : Hierarchy} (declared : Declared h) (c : ClassId) :
    h.abstractInOrder c = [] ↔ h.abstractOf c = [] := by
  rw [← List.length_eq_zero_iff, ← List.length_eq_zero_iff, (declared.abstract_perm c).length_eq]

end Hierarchy

section problems

variable {h : Hierarchy} {c : ClassId} {names : List String}

theorem problem_iff : h.problem? c name = some e ↔
    ∃ location message, Reads h c name (.error (.skipped location message)) ∧ e = ⟨true, location, message⟩ := by
  constructor
  · intro reported
    have reads := method_reads h c name
    unfold Hierarchy.problem? at reported
    split at reported
    · rename_i location message read
      cases reported
      exact ⟨location, message, read ▸ reads, rfl⟩
    · cases reported
  · intro left
    obtain ⟨location, message, reads, rfl⟩ := left
    rw [Hierarchy.problem?, reads_method reads]

theorem readable_kept (kept : String → Bool) : (names.filter kept).filterMap (h.readable? c) =
    (names.filterMap (h.readable? c)).filter fun m => kept m.signature.name := by
  rw [List.filterMap_filter, List.filter_filterMap]
  apply List.filterMap_congr
  intro name _
  cases readable : h.readable? c name with
  | none => simp
  | some m => simp [Option.filter, method_name (readable_name readable)]

end problems

-- Each is listed and reported; whichever names are kept, the scan comes to the same.
structure Spares (h : Hierarchy) (c : ClassId) (before after : Report) (d : Declaration) : Prop where
  unreadable : ∀ name ∈ h.abstractOf c,
    (name ∈ d.skipped ↔ ∃ location message, Reads h c name (.error (.skipped location message)))
  reported : after.diagnostics = before.diagnostics ++ d.skipped.filterMap (h.problem? c)
  alone : ∀ kept : String → Bool, (∃ name ∈ h.abstractOf c, kept name = true) →
    ∃ last, (h.sparing c kept).scan (.type c) before = (last, .ok { d with
        methods := d.methods.filter fun m => kept m.signature.name
        skipped := d.skipped.filter kept }) ∧
      last.diagnostics = before.diagnostics ++ (d.skipped.filter kept).filterMap (h.problem? c)

def GivenUp (h : Hierarchy) (c : ClassId) (before after : Report) (kind : String) : Prop :=
  ∃ front name back, h.abstractInOrder c = front ++ name :: back ∧ (∀ other ∈ front, ∀ other', ¬ Aborts h c other other') ∧
    Aborts h c name kind ∧ after.diagnostics = before.diagnostics ++ front.filterMap (h.problem? c)

-- Nothing that is asked of one method depends on which others are abstract.
theorem through_kept {h : Hierarchy} (declared : h.Declared) (sound : ∀ name ∈ h.abstractInOrder c, h.fault? c name = none)
    (through : Through h c (h.abstractInOrder c) ⟨[], [], before⟩ next) (kept : String → Bool)
    (some : ∃ name ∈ h.abstractOf c, kept name = true) :
    ∃ last, (h.sparing c kept).scan (.type c) before = (last, .ok ⟨h.type c,
        next.methods.filter fun m => kept m.signature.name, h.membersOf c, next.skipped.filter kept⟩) ∧
      last.diagnostics = before.diagnostics ++ (next.skipped.filter kept).filterMap (h.problem? c) := by
  obtain ⟨name, abstract, keeps⟩ := some
  have same := h.sparing_method c kept
  have fault : (h.sparing c kept).fault? = h.fault? := by funext a name; simp only [Hierarchy.fault?, same]
  have readable : (h.sparing c kept).readable? = h.readable? := by funext a name; simp only [Hierarchy.readable?, same]
  have problem : (h.sparing c kept).problem? = h.problem? := by funext a name; simp only [Hierarchy.problem?, same]
  have listed := h.sparing_order c kept
  have some : (h.sparing c kept).abstractInOrder c ≠ [] := by
    rw [listed]
    exact List.ne_nil_of_mem (List.mem_filter.mpr ⟨(declared.abstract_perm c).mem_iff.mpr abstract, keeps⟩)
  have fine : ∀ name ∈ (h.sparing c kept).abstractInOrder c, (h.sparing c kept).fault? c name = none := by
    intro name member
    rw [listed] at member
    rw [fault]
    exact sound name (List.mem_filter.mp member).1
  obtain ⟨last, after, alone, ended, scan⟩ := scanClass_through some fine before
  have methods := through.methods
  have skipped := through.skipped
  have methods' := alone.methods
  have skipped' := alone.skipped
  rw [List.nil_append] at methods skipped methods' skipped'
  rw [listed] at methods' skipped'
  have commuted : (h.abstractInOrder c |>.filter kept).filter (fun name => (h.problem? c name).isSome) =
      next.skipped.filter kept := by
    rw [skipped, List.filter_filter, List.filter_filter]
    exact List.filter_congr fun name _ => Bool.and_comm _ _
  refine ⟨after, ?_, ?_⟩
  · rw [Hierarchy.scan, scan, methods', skipped', readable, problem, h.sparing_type, h.sparing_members, readable_kept,
      ← methods, commuted]
  · rw [ended, alone.diagnostics, listed, problem, problems_filter, commuted]

theorem through_spares {h : Hierarchy} (declared : h.Declared) (sound : ∀ name ∈ h.abstractInOrder c, h.fault? c name = none)
    (through : Through h c (h.abstractInOrder c) ⟨[], [], before⟩ next) (ended : after.diagnostics = next.report.diagnostics) :
    Spares h c before after ⟨h.type c, next.methods, h.membersOf c, next.skipped⟩ where
  unreadable := by
    intro name abstract
    have listed := (declared.abstract_perm c).mem_iff.mpr abstract
    simp only [through.skipped, List.nil_append, List.mem_filter, listed, true_and, Option.isSome_iff_exists, problem_iff]
    constructor
    · intro reported
      obtain ⟨_, location, message, reads, _⟩ := reported
      exact ⟨location, message, reads⟩
    · intro blamed
      obtain ⟨location, message, reads⟩ := blamed
      exact ⟨_, location, message, reads, rfl⟩
  reported := by rw [ended, through.diagnostics, through.skipped, List.nil_append, problems_filter]
  alone := through_kept declared sound through

theorem GivenUp.aborts {h : Hierarchy} (declared : h.Declared) (given : GivenUp h c before after kind) :
    ∃ name ∈ h.abstractOf c, Aborts h c name kind := by
  obtain ⟨front, name, back, split, _, aborts, _⟩ := given
  refine ⟨name, (declared.abstract_perm c).mem_iff.mp ?_, aborts⟩
  simp [split]

theorem scanClass_ends {h : Hierarchy} (declared : h.Declared) (some : h.abstractOf c ≠ []) (before : Report) :
    (∃ after d, h.scanClass c before = (after, .ok d) ∧ (∀ name ∈ h.abstractOf c, ∀ kind, ¬ Aborts h c name kind) ∧
        Spares h c before after d) ∨
      ∃ after kind, h.scanClass c before = (after, .error (.raised kind)) ∧ GivenUp h c before after kind := by
  have listed : h.abstractInOrder c ≠ [] := mt (declared.abstract_none c).mp some
  rcases sound_or_fault h c (h.abstractInOrder c) with sound | ⟨front, name, back, kind, split, sound, fault⟩
  · obtain ⟨next, after, through, ended, scan⟩ := scanClass_through listed sound before
    refine .inl ⟨after, _, scan, ?_, through_spares declared sound through ended⟩
    intro name abstract
    exact sound_iff.mp (sound name ((declared.abstract_perm c).mem_iff.mpr abstract))
  · obtain ⟨after, reported, scan⟩ := scanClass_stops split sound fault before
    exact .inr ⟨after, kind, scan, front, name, back, split, fun other member => sound_iff.mp (sound other member),
      fault_iff.mp fault, reported⟩

-- What a scan of anything comes to: nothing is refused but what is no class or has nothing
-- to scan, and a declaration comes of every class none of whose abstract methods ends it.
structure Settles (h : Hierarchy) (target : Constant) (before : Report) : Prop where
  refused : (∃ after r, h.scan target before = (after, .error (.refused r))) ↔
    ((∀ c, target ≠ .type c) ∧ ∃ text, target.shown h.type = .ok text) ∨ ∃ c, target = .type c ∧ h.abstractOf c = []
  returns : (∃ after d, h.scan target before = (after, .ok d)) ↔
    ∃ c, target = .type c ∧ h.abstractOf c ≠ [] ∧ ∀ name ∈ h.abstractOf c, ∀ kind, ¬ Aborts h c name kind
  spares : ∀ c, target = .type c → ∀ after d, h.scan target before = (after, .ok d) → Spares h c before after d
  raised : ∀ after kind, h.scan target before = (after, .error (.raised kind)) →
    ((∀ c, target ≠ .type c) ∧ target.shown h.type = .error kind) ∨
      ∃ c, target = .type c ∧ h.abstractOf c ≠ [] ∧ GivenUp h c before after kind

theorem other_settles {h : Hierarchy} {target : Constant} (other : ∀ c, target ≠ .type c) (before : Report) :
    Settles h target before := by
  have scan := scan_other (h := h) other before
  cases shown : target.shown h.type with
  | ok text =>
    rw [shown] at scan
    refine ⟨⟨fun _ => .inl ⟨other, text, shown⟩, fun _ => ⟨_, _, scan⟩⟩, ⟨?_, ?_⟩, ?_, ?_⟩ <;> simp [scan, other]
  | error kind =>
    rw [shown] at scan
    refine ⟨⟨?_, ?_⟩, ⟨?_, ?_⟩, ?_, ?_⟩ <;> simp_all

theorem class_settles {h : Hierarchy} (declared : h.Declared) (c : ClassId) (before : Report) :
    Settles h (.type c) before := by
  by_cases none : h.abstractOf c = []
  · have scan := scanClass_none ((declared.abstract_none c).mpr none) before
    change h.scan (.type c) before = _ at scan
    refine ⟨⟨fun _ => .inr ⟨c, rfl, none⟩, fun _ => ⟨_, _, scan⟩⟩, ⟨?_, ?_⟩, ?_, ?_⟩ <;> simp [scan, none]
  · rcases scanClass_ends declared none before with ⟨after, d, scan, sound, spares⟩ | ⟨after, kind, scan, given⟩
    · change h.scan (.type c) before = _ at scan
      refine ⟨⟨?_, ?_⟩, ⟨fun _ => ⟨c, rfl, none, sound⟩, fun _ => ⟨after, d, scan⟩⟩, ?_, ?_⟩
      · simp [scan]
      · simp [none]
      · intro _ same after' d' scanned
        cases same
        rw [scan] at scanned
        cases scanned
        exact spares
      · simp [scan]
    · change h.scan (.type c) before = _ at scan
      refine ⟨⟨?_, ?_⟩, ⟨?_, ?_⟩, ?_, ?_⟩
      · simp [scan]
      · simp [none]
      · simp [scan]
      · intro found
        obtain ⟨_, same, _, sound⟩ := found
        cases same
        obtain ⟨name, abstract, aborts⟩ := given.aborts declared
        exact absurd aborts (sound name abstract kind)
      · simp [scan]
      · intro after' kind' scanned
        rw [scan] at scanned
        cases scanned
        exact .inr ⟨c, rfl, none, given⟩

theorem scan_settles {h : Hierarchy} (declared : h.Declared) (target : Constant) (before : Report) :
    Settles h target before := by
  by_cases known : ∃ c, target = .type c
  · obtain ⟨c, rfl⟩ := known
    exact class_settles declared c before
  · exact other_settles (not_exists.mp known) before

theorem library_spared : ∃ after d, library.scan (.type (firstClass + 2)) .empty = (after, .ok d) ∧
    d.skipped = ["maps", "index"] ∧ Spares library (firstClass + 2) .empty after d := by
  have checked : (library.scan (.type (firstClass + 2)) .empty).2.toOption.map (·.skipped) =
      some ["maps", "index"] := by
    decide +kernel
  have some : library.abstractOf (firstClass + 2) ≠ [] := by decide +kernel
  have declared : library.Declared := classesOf_declared _
  cases scanned : library.scan (.type (firstClass + 2)) .empty with
  | mk after result =>
    cases result with
    | error fault => simp [scanned, Except.toOption] at checked
    | ok d =>
      simp only [scanned, Except.toOption, Option.map_some, Option.some.injEq] at checked
      have settled := scan_settles declared (.type (firstClass + 2)) .empty
      exact ⟨after, d, rfl, checked, settled.spares _ rfl after d scanned⟩

-- One mapper for each way to end a scan: next to a sound method stands one whose parameter
-- has the base marker, that gives an awaitable of nothing, whose DAO class names no
-- implementation, and whose annotations are no expressions.
def stalls : Hierarchy :=
  let dao : TypeForm := .cls firstClass
  let sound : String × FunctionDecl := ("daos", ⟨[receiver], some dao, none⟩)
  classesOf [daoClass "Dao",
    { daoClass "Unbuilt" with attributes := [(implementationName, .value)] },
    mapperClass "Marked" [sound, ("marked", ⟨[receiver,
      ⟨"space", .positional, some (.annotated (.cls 5) [.marker .base]), none⟩], some dao, none⟩)],
    mapperClass "Awaited" [sound, ("awaited", ⟨[receiver], some (.awaitable true []), none⟩)],
    mapperClass "Unnamed" [sound, ("unnamed", ⟨[receiver], some (.cls (firstClass + 1)), none⟩)],
    mapperClass "Unread" [sound, ("unread", ⟨[receiver], none, some (.raised "SyntaxError")⟩)]]

def Hierarchy.silentlyAborts (h : Hierarchy) (c : ClassId) (kind : String) : Bool :=
  match h.scan (.type c) .empty with
  | (after, .error fault) => fault == .raised kind && after.diagnostics == []
  | _ => false

theorem aborts_silently {h : Hierarchy} (checked : h.silentlyAborts c kind = true) :
    ∃ after, h.scan (.type c) .empty = (after, .error (.raised kind)) ∧ after.diagnostics = [] := by
  unfold Hierarchy.silentlyAborts at checked
  split at checked
  · rename_i after fault scanned
    simp only [Bool.and_eq_true, beq_iff_eq] at checked
    exact ⟨after, checked.1 ▸ scanned, checked.2⟩
  · cases checked

theorem stalls_abort :
    stalls.Declared ∧
    (∀ n ∈ [2, 3, 4, 5], "daos" ∈ stalls.abstractOf (firstClass + n) ∧
      (stalls.readable? (firstClass + n) "daos").isSome) ∧
    ∀ x ∈ [(2, "AttributeError"), (3, "ValueError"), (4, "AttributeError"), (5, "SyntaxError")],
      ∃ after, stalls.scan (.type (firstClass + x.1)) .empty = (after, .error (.raised x.2)) ∧ after.diagnostics = [] := by
  refine ⟨classesOf_declared _, by decide +kernel, ?_⟩
  have checked : ∀ x ∈ [(2, "AttributeError"), (3, "ValueError"), (4, "AttributeError"), (5, "SyntaxError")],
      stalls.silentlyAborts (firstClass + x.1) x.2 = true := by
    decide +kernel
  intro x member
  exact aborts_silently (checked x member)

end DaoMapper.Interface
