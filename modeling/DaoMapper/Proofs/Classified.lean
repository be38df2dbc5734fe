import DaoMapper.Proofs.Inherited
import DaoMapper.Proofs.Reading
import Mathlib.Data.List.Induction

-- A scan that comes through has put each abstract method among those that it read or
-- among those that it skipped, in the order in which the classes define them.
namespace DaoMapper.Interface

open Mapper (Declaration Diagnostic FactoryMethod Report)

theorem eraseDups_ordered [BEq α] [LawfulBEq α] (all : List α) :
    all.eraseDups.Pairwise fun a b => all.idxOf a < all.idxOf b := by
  induction all using List.reverseRecOn with
  | nil => exact .nil
  | append_singleton all a ih =>
    have kept : all.eraseDups.Pairwise fun b c => (all ++ [a]).idxOf b < (all ++ [a]).idxOf c := by
      apply ih.imp_of_mem
      intro b c first second before
      rwa [List.idxOf_append_of_mem (List.mem_eraseDups.mp first), List.idxOf_append_of_mem (List.mem_eraseDups.mp second)]
    rw [eraseDups_snoc]
    split
    · exact kept
    · -- The new one comes behind all that are there.
      rename_i new
      refine List.pairwise_append.mpr ⟨kept, List.pairwise_singleton _ _, ?_⟩
      intro b member c last
      obtain rfl := List.mem_singleton.mp last
      rw [List.idxOf_append_of_mem (List.mem_eraseDups.mp member), List.idxOf_append_of_notMem new]
      exact Nat.lt_add_right _ (List.idxOf_lt_length_of_mem (List.mem_eraseDups.mp member))

namespace Hierarchy

def definitions (h : Hierarchy) (c : ClassId) : List String :=
  (h.lineOf c).reverse.flatMap fun a => (h.attributesOf a).map (·.1)

def Precedes (h : Hierarchy) (c : ClassId) (one two : String) : Prop :=
  (h.definitions c).idxOf one < (h.definitions c).idxOf two

theorem abstract_ordered (h : Hierarchy) (c : ClassId) : (h.abstractInOrder c).Pairwise (h.Precedes c) := by
  apply List.Pairwise.filter
  rw [h.namesInOrder_eq]
  exact eraseDups_ordered _

structure Blames (h : Hierarchy) (c : ClassId) (name : String) (e : Diagnostic) : Prop where
  isError : e.isError = true
  reads : Reads h c name (.error (.skipped e.location e.message))
  location : e.location = h.place c name ∨ ∃ f isAbstract, h.attribute? c name = some (.function f isAbstract) ∧
    ∃ q ∈ f.parameters.tail, e.location = h.place c name ++ "(" ++ q.name ++ ")"

-- The signature has all parameters but the first, as they are declared.
structure Signs (h : Hierarchy) (c : ClassId) (m : FactoryMethod) : Prop where
  reads : Reads h c m.signature.name (.ok m)
  parameters : ∃ f isAbstract, h.attribute? c m.signature.name = some (.function f isAbstract) ∧
    List.Forall₂ h.Carries f.parameters.tail m.signature.parameters

end Hierarchy

theorem readParameters_blames {h : Hierarchy} {f : FunctionDecl}
    (stops : h.readParameters location f = .error (.skipped place message)) :
    ∃ q ∈ f.parameters.tail, place = location ++ "(" ++ q.name ++ ")" := by
  obtain ⟨front, q, back, split, _, stopped⟩ := mapM_error_iff.mp stops
  exact ⟨q, by simp [split], parameter_skipped stopped⟩

theorem method_blames {h : Hierarchy} (read : h.method c name = .error (.skipped place message)) :
    h.Blames c name ⟨true, place, message⟩ := by
  have reads := method_reads h c name
  rw [read] at reads
  refine ⟨rfl, reads, ?_⟩
  cases reads with
  | otherKind | unknown | bare | noClass => exact .inl rfl
  | noBuilder gives lacks =>
    rcases builder_error lacks with ⟨_, raised, _⟩ | ⟨text, skipped⟩
    · cases raised
    · cases skipped
      exact .inl rfl
  | badParameter builds stops =>
    obtain ⟨isAbstract, found⟩ := builds.gives.declares.found
    exact .inr ⟨_, isAbstract, found, readParameters_blames stops⟩

theorem method_parameters {h : Hierarchy} (read : h.method c name = .ok m) :
    ∃ f isAbstract, h.attribute? c name = some (.function f isAbstract) ∧
      List.Forall₂ h.Carries f.parameters.tail m.signature.parameters := by
  have reads := method_reads h c name
  rw [read] at reads
  cases reads with
  | method builds all =>
    obtain ⟨isAbstract, found⟩ := builds.gives.declares.found
    exact ⟨_, isAbstract, found, (mapM_ok all).imp fun _ _ => parameter_ok⟩

theorem method_signs {h : Hierarchy} (read : h.method c name = .ok m) : h.Signs c m := by
  obtain rfl := method_name read
  exact ⟨read ▸ method_reads h c _, method_parameters read⟩

theorem problem_blames {h : Hierarchy} (reported : h.problem? c name = some e) : h.Blames c name e := by
  unfold Hierarchy.problem? at reported
  split at reported
  · rename_i read
    cases reported
    exact method_blames read
  · cases reported

structure Classified (h : Hierarchy) (c : ClassId) (before after : Report) (d : Declaration) : Prop where
  distinct : (d.methods.map (·.signature.name) ++ d.skipped).Nodup
  complete : ∀ name, name ∈ d.methods.map (·.signature.name) ++ d.skipped ↔ name ∈ h.abstractOf c
  readOrder : (d.methods.map (·.signature.name)).Pairwise (h.Precedes c)
  skippedOrder : d.skipped.Pairwise (h.Precedes c)
  reported : ∃ errors, after.diagnostics = before.diagnostics ++ errors ∧ List.Forall₂ (h.Blames c) d.skipped errors
  signed : ∀ m ∈ d.methods, h.Signs c m

theorem scan_classifies {h : Hierarchy} (declared : h.Declared) (scanned : h.scan target before = (after, .ok d)) :
    ∃ c, target = .type c ∧ Classified h c before after d := by
  obtain ⟨c, rfl, scanned⟩ := scan_class scanned
  obtain ⟨next, sound, through, ended, rfl⟩ := scanClass_ok scanned
  have parted := (through.parted sound).trans (declared.abstract_perm c)
  have ordered := h.abstract_ordered c
  refine ⟨c, rfl, parted.nodup_iff.mpr (declared.lists c).1, fun name => parted.mem_iff, ?_, ?_, ?_, ?_⟩
  · rw [through.read]
    exact ordered.filter _
  · rw [through.left sound]
    exact ordered.filter _
  · refine ⟨_, ended.trans through.diagnostics, ?_⟩
    rw [through.skipped]
    exact (problems_listed h c _).imp fun _ _ => problem_blames
  · intro m member
    rw [through.methods] at member
    obtain ⟨name, _, readable⟩ := List.mem_filterMap.mp member
    exact method_signs (readable_name readable)

-- A mapper over another one: it defines one of two methods anew, and the other cannot be
-- read, nor can the one that it adds.
def library : Hierarchy :=
  let dao : TypeForm := .cls firstClass
  let keyspace : ParameterDecl := ⟨"space", .positional, some (.annotated (.cls 5) [.marker .keyspace]), some (.value .null)⟩
  classesOf [daoClass "Dao",
    mapperClass "Shelf" [("books", ⟨[receiver], some dao, none⟩),
      ("maps", ⟨[receiver, { keyspace with kind := .keywordOnly }], some dao, none⟩)],
    { mapperClass "Library" [("index", ⟨[receiver], none, none⟩),
        ("books", ⟨[receiver, keyspace], some dao, none⟩)] with
      bases := [firstClass + 1] }]

theorem library_classified : ∃ after d, library.scan (.type (firstClass + 2)) .empty = (after, .ok d) ∧
    d.methods.map (·.signature.name) = ["books"] ∧ d.skipped = ["maps", "index"] ∧
    Classified library (firstClass + 2) .empty after d := by
  have checked : (library.scan (.type (firstClass + 2)) .empty).2.toOption.map (fun d =>
      (d.methods.map (·.signature.name), d.skipped)) = some (["books"], ["maps", "index"]) := by
    decide +kernel
  have declared : library.Declared := classesOf_declared _
  cases scanned : library.scan (.type (firstClass + 2)) .empty with
  | mk after result =>
    cases result with
    | error fault => simp [scanned, Except.toOption] at checked
    | ok d =>
      simp only [scanned, Except.toOption, Option.map_some, Option.some.injEq, Prod.mk.injEq] at checked
      obtain ⟨c, same, classified⟩ := scan_classifies declared scanned
      obtain rfl := Constant.type.inj same
      exact ⟨after, d, rfl, checked.1, checked.2, classified⟩

end DaoMapper.Interface
