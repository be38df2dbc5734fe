import DaoMapper.Proofs.Call
import DaoMapper.Proofs.Classified

-- The override of a method against what its class declares: it takes the calls that the declaration
-- takes, with the same values.
namespace DaoMapper.Interface

open Execution (Object)

def Constant.passed : Constant → Object
  | .identifier i => .identifier i
  | .type c => .cls c
  | c => (c.literal?.map .literal).getD .other

def ParameterDecl.slot (q : ParameterDecl) : Slot Object := ⟨q.name, q.kind, q.default?.map Constant.passed⟩

def FunctionDecl.own (f : FunctionDecl) : List (Slot Object) := f.parameters.map (·.slot)

-- A function that takes its receiver in the first place. Names are distinct and defaults come last.
structure Received (f : FunctionDecl) (receiver : ParameterDecl) (rest : List ParameterDecl) : Prop where
  parameters : f.parameters = receiver :: rest
  place : receiver.kind.overridable = true
  distinct : (f.parameters.map (·.name)).Nodup
  trailing : rest.Pairwise fun q r => q.default?.isSome → r.default?.isSome

theorem Received.names {receiver : ParameterDecl} (received : Received f receiver rest) :
    receiver.name ∉ rest.map (·.name) ∧ (rest.map (·.name)).Nodup := by
  have distinct := received.distinct
  rw [received.parameters, List.map_cons, List.nodup_cons] at distinct
  exact distinct

namespace Slot

variable {α : Type} {slots : List (Slot α)} {arguments : List α} {keywords : List (String × α)}

def standIn (o : α) (s : Slot α) : Slot α := { s with fallback := s.fallback.map fun _ => o }

theorem misfit_standIn (o : α) (misfit : Misfit slots arguments keywords) : Misfit (slots.map (standIn o)) arguments keywords := by
  have same : names (slots.map (standIn o)) = names slots := by simp [names, Function.comp_def, standIn]
  cases misfit with
  | many more => exact .many (by simpa using more)
  | unknown given foreign =>
    refine .unknown given fun s member takes => ?_
    obtain ⟨s, among, rfl⟩ := List.mem_map.mp member
    exact foreign s among takes
  | twice given placed => exact .twice given (by rwa [same])
  | unbound among needed unplaced unnamed =>
    refine .unbound (List.mem_map_of_mem among) ?_ (by rwa [same]) unnamed
    simp [standIn, needed]

end Slot

end DaoMapper.Interface

namespace DaoMapper.Execution

open Code (Function)
open Interface
open Mapper (Parameter overriding)

theorem literal_passed (l : Mapper.Literal) : Constant.passed (.value l.toValue) = .literal l := by
  cases l <;> rfl

theorem overridable_place (q : ParameterDecl) : q.slot.takesPosition = q.kind.overridable := by
  unfold Slot.takesPosition ParameterDecl.slot
  cases q.kind <;> rfl

theorem own_standIn (f : FunctionDecl) : f.slots nullObject = f.own.map (Slot.standIn nullObject) := by
  simp [FunctionDecl.slots, FunctionDecl.own, Slot.standIn, ParameterDecl.slot, Function.comp_def]

-- The list of the defaults alone, filled up in front, gives each its own where those with a default come last.
theorem trailing_aligned {value : α → Option β} {all : List α}
    (trailing : all.Pairwise fun a b => (value a).isSome → (value b).isSome) :
    List.replicate (all.length - (all.filterMap value).length) none ++ (all.filterMap value).map some = all.map value := by
  induction all with
  | nil => rfl
  | cons a rest ih =>
    rw [List.pairwise_cons] at trailing
    have aligned := ih trailing.2
    have few := List.length_filterMap_le value rest
    cases own : value a with
    | none =>
      have more : rest.length + 1 - (rest.filterMap value).length = rest.length - (rest.filterMap value).length + 1 := by omega
      simp only [List.filterMap_cons, own, List.length_cons, more, List.replicate_succ, List.cons_append, aligned,
        List.map_cons]
    | some b =>
      have full : (rest.filterMap value).length = rest.length :=
        List.filterMap_length_eq_length.mpr fun r member => trailing.1 r member (by rw [own]; rfl)
      rw [full, Nat.sub_self, List.replicate_zero, List.nil_append] at aligned
      simp only [List.filterMap_cons, own, List.length_cons, full, Nat.sub_self, List.replicate_zero, List.nil_append,
        List.map_cons, aligned]

section Covering

variable {h : Hierarchy} {m : Mapper.FactoryMethod} {f : FunctionDecl} {receiver : ParameterDecl} {rest : List ParameterDecl}

structure Kept (q : ParameterDecl) (p : Parameter) : Prop where
  name : p.name = q.name
  place : q.kind.overridable = true
  fallback : q.default?.map Constant.passed = p.default?.map .literal

theorem method_keeps (read : h.method mapper name = .ok m) (found : h.attribute? mapper name = some (.function f isAbstract))
    (received : Received f receiver rest) : List.Forall₂ Kept rest m.signature.parameters := by
  obtain ⟨f', isAbstract', found', all⟩ := method_parameters read
  cases found.symm.trans found'
  rw [received.parameters, List.tail_cons] at all
  refine all.imp fun q p carries => ⟨carries.name, carries.kind, ?_⟩
  rw [carries.default?, Option.map_map]
  congr 1
  funext l
  exact literal_passed l

theorem kept_map {γ : Type} {a : ParameterDecl → γ} {b : Parameter → γ} {parameters : List Parameter}
    (keeps : List.Forall₂ Kept rest parameters) (same : ∀ q p, Kept q p → a q = b p) : rest.map a = parameters.map b := by
  induction keeps with
  | nil => rfl
  | cons kept _ ih => rw [List.map_cons, List.map_cons, same _ _ kept, ih]

theorem covering_names (keeps : List.Forall₂ Kept rest m.signature.parameters) (own : rename "self" = "self")
    (unhidden : ∀ q ∈ rest, rename q.name = q.name) (body : List Code.Statement) :
    (renamedFunction rename (overriding m.signature body)).arguments.map (·.name) = "self" :: rest.map (·.name) := by
  have kept : rest.map (fun q => rename q.name) = m.signature.parameters.map fun p => rename p.name :=
    kept_map keeps fun q p kept => by rw [kept.name]
  have same : rest.map (fun q => rename q.name) = rest.map (·.name) := List.map_congr_left unhidden
  simp [renamedFunction, overriding, Function.comp_def, ← kept, same, own]

theorem covering_slots (keeps : List.Forall₂ Kept rest m.signature.parameters)
    (trailing : rest.Pairwise fun q r => q.default?.isSome → r.default?.isSome) (own : rename "self" = "self")
    (unhidden : ∀ q ∈ rest, rename q.name = q.name) (body : List Code.Statement) :
    Function.slots (renamedFunction rename (overriding m.signature body)) =
      ⟨"self", .positional, none⟩ :: rest.map (·.slot.loose) := by
  let plan : Mapper.Plan := ⟨m, ⟨none, none⟩⟩
  have given : rest.map (·.default?.isSome) = m.signature.parameters.map (·.default?.isSome) := by
    refine kept_map keeps fun q p kept => ?_
    rw [← Option.isSome_map, kept.fallback, Option.isSome_map]
  have fallbacks : plan.fallbacks = m.signature.parameters.map (·.default?) := by
    refine trailing_aligned ?_
    rw [← List.pairwise_map (f := fun p : Parameter => p.default?.isSome) (R := fun a b => a = true → b = true), ← given,
      List.pairwise_map]
    exact trailing
  refine (Mapper.overriding_slots plan own body).trans (congrArg _ ?_)
  calc (m.signature.parameters.zip plan.fallbacks).map fun x => (⟨rename x.1.name, .positional, x.2.map .literal⟩ : Slot Object)
    _ = m.signature.parameters.map fun p => ⟨rename p.name, .positional, p.default?.map .literal⟩ := by
      have paired : m.signature.parameters.zip (m.signature.parameters.map (·.default?)) =
          m.signature.parameters.map fun p => (p, p.default?) := by
        simpa using List.zip_map' (f := id) (g := fun p : Parameter => p.default?) (l := m.signature.parameters)
      rw [fallbacks, paired, List.map_map]
      rfl
    _ = rest.map fun q => ⟨rename q.name, .positional, q.default?.map Constant.passed⟩ := by
      refine (kept_map keeps fun q p kept => ?_).symm
      rw [kept.name, kept.fallback]
    _ = rest.map (·.slot.loose) := by
      refine List.map_congr_left fun q member => ?_
      rw [unhidden q member]
      rfl

section Calls

variable {o : Object} {arguments : List Object} {keywords : Variables}

def Unnamed (rest : List ParameterDecl) (keywords : Variables) : Prop :=
  ∀ q ∈ rest, q.kind = .positionalOnly → q.name ∉ keywords.map (·.1)

theorem keyword_iff {q : ParameterDecl} (place : q.kind.overridable = true) :
    q.slot.takesKeyword = false ↔ q.kind = .positionalOnly := by
  unfold Slot.takesKeyword ParameterDecl.slot
  cases kind : q.kind <;> simp [kind, ParameterKind.overridable] at place ⊢

theorem slots_names (rest : List ParameterDecl) : Slot.names (rest.map (·.slot)) = rest.map (·.name) := by
  simp [Slot.names, Function.comp_def, ParameterDecl.slot]

theorem slots_loose (rest : List ParameterDecl) : rest.map (·.slot.loose) = (rest.map (·.slot)).map Slot.loose := by
  rw [List.map_map]
  rfl

theorem slots_positional (places : ∀ q ∈ rest, q.kind.overridable = true) : Slot.Positional (rest.map (·.slot)) := by
  intro s member
  obtain ⟨q, among, rfl⟩ := List.mem_map.mp member
  rw [overridable_place, places q among]

theorem own_bind (received : Received f receiver rest) (places : ∀ q ∈ rest, q.kind.overridable = true) :
    Slot.bind? f.own (o :: arguments) keywords =
      (Slot.bind? (rest.map (·.slot)) arguments keywords).map ((receiver.name, o) :: ·) := by
  rw [FunctionDecl.own, received.parameters, List.map_cons]
  refine Slot.bind_receiver ?_ (slots_positional places) ?_ o arguments keywords
  · rw [overridable_place, received.place]
  · rw [slots_names]
    exact received.names.1

theorem covering_bind {g : Function} (slots : Function.slots g = ⟨"self", .positional, none⟩ :: rest.map (·.slot.loose))
    (unself : "self" ∉ rest.map (·.name)) : Slot.bind? (Function.slots g) (o :: arguments) keywords =
      (Slot.bind? (rest.map (·.slot.loose)) arguments keywords).map (("self", o) :: ·) := by
  rw [slots, slots_loose]
  refine Slot.bind_receiver rfl (Slot.loose_positional _) ?_ o arguments keywords
  rw [Slot.loose_names, slots_names]
  exact unself

theorem unnamed_bind (places : ∀ q ∈ rest, q.kind.overridable = true) (unnamed : Unnamed rest keywords) :
    Slot.bind? (rest.map (·.slot.loose)) arguments keywords = Slot.bind? (rest.map (·.slot)) arguments keywords := by
  rw [slots_loose]
  refine Slot.bind_loose (slots_positional places) ?_ arguments
  intro s member refuses
  obtain ⟨q, among, rfl⟩ := List.mem_map.mp member
  exact unnamed q among ((keyword_iff (places q among)).mp refuses)

theorem named_unfit (received : Received f receiver rest) (places : ∀ q ∈ rest, q.kind.overridable = true)
    (named : ¬Unnamed rest keywords) : Slot.Misfit (rest.map (·.slot)) arguments keywords := by
  simp only [Unnamed, not_forall, not_not] at named
  obtain ⟨q, among, only, given⟩ := named
  refine Slot.named_misfit ?_ (List.mem_map_of_mem among) ((keyword_iff (places q among)).mpr only) given
  rw [slots_names]
  exact received.names.2

theorem own_misfit (received : Received f receiver rest) (places : ∀ q ∈ rest, q.kind.overridable = true) :
    Slot.bind? f.own (o :: arguments) keywords = none ↔ Slot.Misfit (rest.map (·.slot)) arguments keywords := by
  rw [own_bind received places, Option.map_eq_none_iff, Slot.bind_none_iff (slots_positional places)]

theorem callDeclared_refuses (received : Received f receiver rest) (places : ∀ q ∈ rest, q.kind.overridable = true)
    (misfit : Slot.Misfit (rest.map (·.slot)) arguments keywords) :
    callDeclared f (o :: arguments) keywords = throw .unfit := by
  have positional : Slot.Positional f.own := by
    rw [FunctionDecl.own, received.parameters]
    exact slots_positional (List.forall_mem_cons.mpr ⟨received.place, places⟩)
  have own := (Slot.bind_none_iff positional).mp ((own_misfit (o := o) received places).mpr misfit)
  have positional' : Slot.Positional (f.own.map (Slot.standIn nullObject)) := by
    intro s member
    obtain ⟨s, among, rfl⟩ := List.mem_map.mp member
    exact positional s among
  rw [callDeclared, own_standIn, (Slot.bind_none_iff positional').mpr (Slot.misfit_standIn nullObject own)]

end Calls

-- How the override `g` stands to the function `f` that it overrides, in calls of a method on an object `o`.
structure Covers (f : FunctionDecl) (receiver : ParameterDecl) (rest : List ParameterDecl) (g : Function) : Prop where
  parameters : g.arguments.map (·.name) = "self" :: rest.map (·.name)
  defaults : Function.slots g = ⟨"self", .positional, none⟩ :: rest.map (·.slot.loose)
  accepts : Slot.bind? f.own (o :: arguments) keywords = some bound →
    ∃ given, given.map (·.1) = rest.map (·.name) ∧ bound = (receiver.name, o) :: given ∧
      Slot.bind? (Function.slots g) (o :: arguments) keywords = some (("self", o) :: given)
  misfit_iff : Slot.bind? f.own (o :: arguments) keywords = none ↔ Slot.Misfit (rest.map (·.slot)) arguments keywords
  refuses : Slot.Misfit (rest.map (·.slot)) arguments keywords →
    callDeclared f (o :: arguments) keywords = throw .unfit ∧
      (Unnamed rest keywords → ∀ m, callFunction m g (o :: arguments) keywords = throw .unfit)
  named : ¬Unnamed rest keywords → Slot.Misfit (rest.map (·.slot)) arguments keywords ∧
    Slot.bind? (Function.slots g) (o :: arguments) keywords =
      (Slot.bind? (rest.map (·.slot.loose)) arguments keywords).map (("self", o) :: ·)

-- For every method that is read, in a class that keeps the names of its parameters: the override
-- takes each call that the declaration takes, and refuses the others but for those that name a
-- parameter which is declared to take a place only.
theorem override_covers (read : h.method mapper name = .ok m)
    (found : h.attribute? mapper name = some (.function f isAbstract)) (received : Received f receiver rest)
    (unself : "self" ∉ rest.map (·.name)) (own : rename "self" = "self")
    (unhidden : ∀ q ∈ rest, rename q.name = q.name) (body : List Code.Statement) :
    Covers f receiver rest (renamedFunction rename (overriding m.signature body)) := by
  have keeps := method_keeps read found received
  have slots := covering_slots keeps received.trailing own unhidden body
  have places := ((List.forall₂_and_left _ _).mp (keeps.imp fun q p kept => ⟨kept.place, kept⟩)).1
  refine ⟨?_, slots, ?_, own_misfit received places, ?_, ?_⟩
  · exact covering_names keeps own unhidden body
  · intro o arguments keywords bound done
    have unnamed : Unnamed rest keywords := by
      by_contra named
      rw [(own_misfit received places).mpr (named_unfit received places named)] at done
      cases done
    rw [own_bind received places, ← unnamed_bind places unnamed] at done
    obtain ⟨given, placed, rfl⟩ := Option.map_eq_some_iff.mp done
    have named := Slot.bind_names (slots_positional places) (unnamed_bind places unnamed ▸ placed)
    exact ⟨given, named.trans (slots_names rest), rfl, by rw [covering_bind slots unself, placed]; rfl⟩
  · intro arguments keywords o misfit
    refine ⟨callDeclared_refuses received places misfit, fun unnamed m => ?_⟩
    have refused := (Slot.bind_none_iff (slots_positional places)).mpr misfit
    rw [callFunction, covering_bind slots unself, unnamed_bind places unnamed, refused]
    rfl
  · intro keywords arguments o named
    exact ⟨named_unfit received places named, covering_bind slots unself⟩

end Covering

theorem books_covered : ∃ f receiver rest m, library.attribute? (firstClass + 2) "books" = some (.function f true) ∧
    library.method (firstClass + 2) "books" = .ok m ∧ rest.map (·.default?.isSome) = [true] ∧
    Covers f receiver rest (renamedFunction (inClass "LibraryImpl") (overriding m.signature [])) := by
  let space : ParameterDecl :=
    ⟨"space", .positional, some (.annotated (.cls 5) [.marker .keyspace]), some (.value .null)⟩
  have found : library.attribute? (firstClass + 2) "books" =
      some (.function ⟨[receiver, space], some (.cls firstClass), none⟩ true) := by
    rfl
  have readable : (library.method (firstClass + 2) "books").toOption.isSome = true := rfl
  cases read : library.method (firstClass + 2) "books" with
  | error fault =>
    rw [read] at readable
    cases readable
  | ok m =>
    refine ⟨_, receiver, [space], m, found, rfl, rfl, ?_⟩
    refine override_covers read found ⟨rfl, rfl, by decide, by simp⟩ (by decide) (inClass_plain _ _ rfl rfl) ?_ []
    intro q member
    obtain rfl := List.mem_singleton.mp member
    exact inClass_plain "LibraryImpl" "space" rfl rfl

def bothTake (h : Hierarchy) (c : ClassId) (name cls : String) (arguments : List Object) (keywords : Variables) :
    Option (Bool × Bool) :=
  match h.attribute? c name, h.method c name with
  | some (.function f _), .ok m =>
    let g := renamedFunction (inClass cls) (overriding m.signature [])
    some ((Slot.bind? f.own arguments keywords).isSome, (Slot.bind? (Function.slots g) arguments keywords).isSome)
  | _, _ => none

-- A parameter that takes a place only, a private name, and a method without a receiver.
def kiosk : Hierarchy :=
  let dao : TypeForm := .cls firstClass
  let keyspace (name : String) (kind : ParameterKind) : ParameterDecl :=
    ⟨name, kind, some (.annotated (.cls 5) [.marker .keyspace]), none⟩
  classesOf [daoClass "Dao", mapperClass "Kiosk" [("placed", ⟨[receiver, keyspace "ks" .positionalOnly], some dao, none⟩),
    ("hidden", ⟨[receiver, keyspace "__ks" .positional], some dao, none⟩),
    ("free", ⟨[keyspace "all" .variadic], some dao, none⟩)]]

theorem kiosk_uncovered :
    bothTake kiosk (firstClass + 1) "placed" "KioskImpl" [.mapper 0] [("ks", .literal (.text "a"))] = some (false, true) ∧
    bothTake kiosk (firstClass + 1) "hidden" "KioskImpl" [.mapper 0] [("__ks", .literal (.text "a"))] = some (true, false) ∧
    bothTake kiosk (firstClass + 1) "free" "KioskImpl" [.mapper 0, .literal (.text "a")] [] = some (true, false) := by
  exact ⟨rfl, rfl, rfl⟩

end DaoMapper.Execution
