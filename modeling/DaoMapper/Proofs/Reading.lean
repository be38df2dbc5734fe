import DaoMapper.Interface.Scan
import Mathlib.Data.List.Forall2

-- What comes of one abstract method when it is read, and of all of them one after the
-- other: a method, a problem of its own, or a fault that ends the reading.
namespace DaoMapper.Interface

open Mapper (Diagnostic FactoryMethod Parameter Report Role)

theorem reading_ok {ε α β : Type} {b : β} {e : Except ε α} {f : α → Except ε β} (done : (e >>= f) = .ok b) :
    ∃ a, e = .ok a ∧ f a = .ok b := by
  cases e with
  | error x => cases done
  | ok a => exact ⟨a, rfl, done⟩

theorem mapError_ok {ε δ α : Type} {a : α} {e : Except ε α} {f : ε → δ} (done : e.mapError f = .ok a) : e = .ok a := by
  cases e with
  | error x => cases done
  | ok b =>
    cases done
    rfl

section lists

variable {α β γ ε : Type}

theorem mapM_ok {f : α → Except ε β} {all : List α} {made : List β} (done : all.mapM f = .ok made) :
    List.Forall₂ (fun a b => f a = .ok b) all made := by
  induction all generalizing made with
  | nil =>
    cases done
    exact .nil
  | cons a rest ih =>
    rw [List.mapM_cons] at done
    obtain ⟨b, first, done⟩ := reading_ok done
    obtain ⟨more, others, done⟩ := reading_ok done
    cases done
    exact .cons first (ih others)

theorem mapM_stops {f : α → Except ε β} {front back : List α} {a : α} {e : ε}
    (sound : ∀ b ∈ front, (f b).isOk = true) (failed : f a = .error e) :
    (front ++ a :: back).mapM f = .error e := by
  induction front with
  | nil =>
    rw [List.nil_append, List.mapM_cons, failed]
    rfl
  | cons first rest ih =>
    rw [List.cons_append, List.mapM_cons, ih fun b member => sound b (List.mem_cons_of_mem _ member)]
    cases step : f first with
    | ok b => rfl
    | error x =>
      have fine := sound first List.mem_cons_self
      rw [step] at fine
      cases fine

theorem mapM_error {f : α → Except ε β} {all : List α} {e : ε} (failed : all.mapM f = .error e) :
    ∃ front a back, all = front ++ a :: back ∧ (∀ b ∈ front, (f b).isOk = true) ∧ f a = .error e := by
  induction all with
  | nil => cases failed
  | cons first rest ih =>
    rw [List.mapM_cons] at failed
    cases step : f first with
    | error x =>
      rw [step] at failed
      cases failed
      exact ⟨[], first, rest, rfl, nofun, step⟩
    | ok b =>
      have later : rest.mapM f = .error e := by
        cases others : rest.mapM f with
        | ok more => simp [step, others, bind, Except.bind, pure, Except.pure] at failed
        | error x => simpa [step, others, bind, Except.bind] using failed
      obtain ⟨front, a, back, rfl, sound, failed⟩ := ih later
      refine ⟨first :: front, a, back, rfl, ?_, failed⟩
      intro c member
      rcases List.mem_cons.mp member with rfl | old
      · simp [step, Except.isOk, Except.toBool]
      · exact sound c old

-- A map that fails has failed at one element and at none before it.
theorem mapM_error_iff {f : α → Except ε β} {all : List α} {e : ε} : all.mapM f = .error e ↔
    ∃ front a back, all = front ++ a :: back ∧ (∀ b ∈ front, (f b).isOk = true) ∧ f a = .error e := by
  constructor
  · exact mapM_error
  · intro parted
    obtain ⟨front, a, back, rfl, sound, failed⟩ := parted
    exact mapM_stops sound failed

theorem forall₂_left {R : α → β → Prop} {as : List α} {bs : List β} (all : List.Forall₂ R as bs) (member : a ∈ as) :
    ∃ b ∈ bs, R a b := by
  induction all with
  | nil => cases member
  | @cons _ second _ _ related _ ih =>
    rcases List.mem_cons.mp member with rfl | old
    · exact ⟨second, List.mem_cons_self, related⟩
    · obtain ⟨b, among, related⟩ := ih old
      exact ⟨b, List.mem_cons_of_mem second among, related⟩

end lists

def plainType : Option TypeForm → TypeForm
  | none => .cls anyClass
  | some (.annotated base _) => base
  | some a => a

def metadataOf : Option TypeForm → List Metadata
  | some (.annotated _ metadata) => metadata
  | _ => []

namespace Metadata

-- The base class itself is no marker, but everything that is made of it.
def isMarker : Metadata → Bool
  | markerClass .base | constant _ => false
  | _ => true

def role : Metadata → Except String RoleValue
  | marker m | markerClass m => m.role
  | constant _ => .ok (.fit none)

end Metadata

def firstMarker? (metadata : List Metadata) : Option Metadata := metadata.find? (·.isMarker)

def givenRole (metadata : List Metadata) : Except String RoleValue :=
  ((firstMarker? metadata).map Metadata.role).getD (.ok (.fit none))

theorem roleOf_first (metadata : List Metadata) : roleOf metadata = givenRole metadata := by
  induction metadata with
  | nil => rfl
  | cons m rest ih =>
    cases m with
    | marker m => rfl
    | constant c => exact ih
    | markerClass m =>
      cases m with
      | base => exact ih
      | derived module name role => rfl

theorem splitRole_parts (hint : Option TypeForm) : splitRole (hint.getD (.cls anyClass)) =
    (givenRole (metadataOf hint)).map (plainType hint, ·) := by
  cases hint with
  | none => rfl
  | some a =>
    cases a with
    | annotated base metadata =>
      rw [Option.getD_some, splitRole, roleOf_first]
      rfl
    | _ => rfl

theorem literal_value {c : Constant} : c.literal? = some l ↔ c = .value l.toValue := by
  constructor
  · intro repeats
    unfold Constant.literal? at repeats
    split at repeats <;> cases repeats <;> rfl
  · intro same
    subst same
    cases l <;> rfl

section parameter

variable {h : Hierarchy} {location : String} {q : ParameterDecl}

def ParameterDecl.Defaults (q : ParameterDecl) (default? : Option Mapper.Literal) : Prop :=
  q.default? = default?.map fun l => .value l.toValue

-- It takes a place, with its type, the role of its first marker, and its default.
structure Hierarchy.Carries (h : Hierarchy) (q : ParameterDecl) (p : Parameter) : Prop where
  kind : q.kind.overridable = true
  name : p.name = q.name
  type : (plainType q.type).typeRef h.type = .ok p.type
  role : givenRole (metadataOf q.type) = .ok (.fit p.role)
  default? : q.Defaults p.default?

inductive Lacks (h : Hierarchy) (q : ParameterDecl) : String → Prop where
  | otherKind (kind : q.kind.overridable = false) : Lacks h q "Only positional parameters are supported"
  | badDefault (kind : q.kind.overridable = true) (given : givenRole (metadataOf q.type) = .ok role)
      (default : q.default? = some c) (strange : c.literal? = none) (text : c.shown h.type = .ok s) :
      Lacks h q ("Default value " ++ s ++ " cannot be repeated in generated code")

-- Asking for a role or for a text, or a role that no parameter may have.
inductive Raises (h : Hierarchy) (q : ParameterDecl) : String → Prop where
  | role (kind : q.kind.overridable = true) (given : givenRole (metadataOf q.type) = .error raised) : Raises h q raised
  | default (kind : q.kind.overridable = true) (given : givenRole (metadataOf q.type) = .ok role)
      (default : q.default? = some c) (strange : c.literal? = none) (text : c.shown h.type = .error raised) :
      Raises h q raised
  | type (kind : q.kind.overridable = true) (given : givenRole (metadataOf q.type) = .ok role)
      (default : q.Defaults default?) (text : (plainType q.type).typeRef h.type = .error raised) : Raises h q raised
  | foreign (kind : q.kind.overridable = true) (given : givenRole (metadataOf q.type) = .ok .foreign)
      (default : q.Defaults default?) (text : (plainType q.type).typeRef h.type = .ok type) :
      Raises h q "ValidationError"

inductive ReadsParameter (h : Hierarchy) (location : String) (q : ParameterDecl) : Except MethodFault Parameter → Prop where
  | lacks (lacks : Lacks h q message) :
      ReadsParameter h location q (.error (.skipped (location ++ "(" ++ q.name ++ ")") message))
  | raises (raises : Raises h q raised) : ReadsParameter h location q (.error (.raised raised))
  | parameter (carries : h.Carries q p) : ReadsParameter h location q (.ok p)

theorem defaultOf_ok (default : q.Defaults default?) : h.defaultOf location q.default? = .ok default? := by
  rw [default]
  cases default? with
  | none => rfl
  | some l =>
    have repeats := literal_value.mpr (rfl : Constant.value l.toValue = .value l.toValue)
    simp only [Option.map_some, Hierarchy.defaultOf, repeats]

theorem reads_parameter (reads : ReadsParameter h location q result) : h.parameter location q = result := by
  cases reads with
  | lacks lacks =>
    cases lacks with
    | otherKind kind => simp [Hierarchy.parameter, kind, bind, Except.bind, throw, throwThe, MonadExceptOf.throw]
    | badDefault kind given default strange text =>
      simp [Hierarchy.parameter, kind, splitRole_parts, given, default, Hierarchy.defaultOf, strange, text, Except.map,
        Except.mapError, bind, Except.bind]
  | raises raises =>
    cases raises with
    | role kind given =>
      simp [Hierarchy.parameter, kind, splitRole_parts, given, Except.map, Except.mapError, bind, Except.bind]
    | default kind given default strange text =>
      simp [Hierarchy.parameter, kind, splitRole_parts, given, default, Hierarchy.defaultOf, strange, text, Except.map,
        Except.mapError, bind, Except.bind]
    | type kind given default text =>
      simp [Hierarchy.parameter, kind, splitRole_parts, given, defaultOf_ok default, text, Except.map, Except.mapError,
        bind, Except.bind]
    | foreign kind given default text =>
      simp [Hierarchy.parameter, kind, splitRole_parts, given, defaultOf_ok default, text, RoleValue.accepted, Except.map,
        Except.mapError, bind, Except.bind]
  | parameter carries =>
    obtain ⟨kind, name, type, role, default⟩ := carries
    simp [Hierarchy.parameter, kind, splitRole_parts, role, defaultOf_ok default, type, RoleValue.accepted, Except.map,
      Except.mapError, bind, Except.bind, pure, Except.pure, ← name]

theorem parameter_reads (h : Hierarchy) (location : String) (q : ParameterDecl) :
    ReadsParameter h location q (h.parameter location q) := by
  have settle {result : Except MethodFault Parameter} (reads : ReadsParameter h location q result) :
      ReadsParameter h location q (h.parameter location q) := by
    rw [reads_parameter reads]
    exact reads
  cases kind : q.kind.overridable with
  | false => exact settle (.lacks (.otherKind kind))
  | true =>
    cases given : givenRole (metadataOf q.type) with
    | error raised => exact settle (.raises (.role kind given))
    | ok role =>
      have onward {default? : Option Mapper.Literal} (default : q.Defaults default?) :
          ReadsParameter h location q (h.parameter location q) := by
        cases text : (plainType q.type).typeRef h.type with
        | error raised => exact settle (.raises (.type kind given default text))
        | ok type =>
          cases role with
          | foreign => exact settle (.raises (.foreign kind given default text))
          | fit role =>
            have carries : h.Carries q ⟨q.name, type, role, default?⟩ := ⟨kind, rfl, text, given, default⟩
            exact settle (.parameter carries)
      cases default : q.default? with
      | none =>
        have defaults : q.Defaults none := default
        exact onward defaults
      | some c =>
        cases repeats : c.literal? with
        | some l =>
          obtain rfl := literal_value.mp repeats
          have defaults : q.Defaults (some l) := default
          exact onward defaults
        | none =>
          cases text : c.shown h.type with
          | ok s => exact settle (.lacks (.badDefault kind given default repeats text))
          | error raised => exact settle (.raises (.default kind given default repeats text))

theorem parameter_ok (read : h.parameter location q = .ok p) : h.Carries q p := by
  have reads := parameter_reads h location q
  rw [read] at reads
  cases reads with
  | parameter carries => exact carries

theorem parameter_skipped (read : h.parameter location q = .error (.skipped place message)) :
    place = location ++ "(" ++ q.name ++ ")" := by
  have reads := parameter_reads h location q
  rw [read] at reads
  cases reads
  rfl

theorem parameter_raised_iff : h.parameter location q = .error (.raised raised) ↔ Raises h q raised := by
  constructor
  · intro read
    have reads := parameter_reads h location q
    rw [read] at reads
    cases reads with
    | raises raises => exact raises
  · intro raises
    exact reads_parameter (.raises raises)

end parameter

-- What raises an exception where the implementation of a DAO class is asked for its method:
-- that question, or else its name, which is wanted where it has no such method.
inductive Baulks (init : String) : Implementer → String → Prop where
  | asked (fails : builds init = .error raised) : Baulks init (.object builds qualname text) raised
  | unnamed (lacks : builds init = .ok false) (fails : qualname = .error raised) :
      Baulks init (.object builds qualname text) raised

theorem builder_error {h : Hierarchy} {i : Implementer} (lacks : h.builder location init i = .error e) :
    (∃ raised, e = .raised raised ∧ Baulks init i raised) ∨ ∃ message, e = .skipped location message := by
  unfold Hierarchy.builder at lacks
  cases i with
  | cls other =>
    dsimp only at lacks
    split at lacks
    · cases lacks
    · cases lacks
      exact .inr ⟨_, rfl⟩
  | object builds qualname text =>
    dsimp only at lacks
    split at lacks
    · cases lacks
    · cases lacks
      exact .inr ⟨_, rfl⟩
    · rename_i fails
      cases lacks
      exact .inl ⟨_, rfl, .asked fails⟩
    · rename_i builds
      cases lacks
      exact .inl ⟨_, rfl, .unnamed builds rfl⟩

theorem builder_baulks {h : Hierarchy} {i : Implementer} (baulks : Baulks init i raised) :
    h.builder location init i = .error (.raised raised) := by
  cases baulks with
  | asked fails => simp only [Hierarchy.builder, fails]
  | unnamed lacks fails => simp only [Hierarchy.builder, lacks, fails]

def Hierarchy.place (h : Hierarchy) (mapper : ClassId) (name : String) : String := (h.type mapper).qualname ++ "." ++ name

structure Declares (h : Hierarchy) (mapper : ClassId) (name : String) (f : FunctionDecl) : Prop where
  found : ∃ isAbstract, h.attribute? mapper name = some (.function f isAbstract)
  sound : f.fault = none

structure Gives (h : Hierarchy) (mapper : ClassId) (name : String) (f : FunctionDecl) (dao : ClassId) (isAsync : Bool) :
    Prop where
  declares : Declares h mapper name f
  gives : ∃ form, f.returns = some form ∧ unwrap form = .ok (.cls dao, isAsync)

structure Builds (h : Hierarchy) (mapper : ClassId) (name : String) (f : FunctionDecl) (dao : ClassId) (isAsync : Bool) :
    Prop where
  gives : Gives h mapper name f dao isAsync
  built : h.builder (h.place mapper name) (Mapper.initName isAsync) (h.implementation dao) = .ok ()

def Hierarchy.readParameters (h : Hierarchy) (location : String) (f : FunctionDecl) : Except MethodFault (List Parameter) :=
  f.parameters.tail.mapM (h.parameter location)

inductive Reads (h : Hierarchy) (mapper : ClassId) (name : String) : Except MethodFault FactoryMethod → Prop where
  | otherKind (other : ∀ f isAbstract, h.attribute? mapper name ≠ some (.function f isAbstract)) :
      Reads h mapper name (.error (.skipped (h.place mapper name) "Abstract member is not a plain method"))
  | unknown (found : h.attribute? mapper name = some (.function f isAbstract)) (fault : f.fault = some (.unknown message)) :
      Reads h mapper name (.error (.skipped (h.place mapper name) ("Cannot resolve annotations: " ++ message)))
  | unread (found : h.attribute? mapper name = some (.function f isAbstract)) (fault : f.fault = some (.raised kind)) :
      Reads h mapper name (.error (.raised kind))
  | bare (declares : Declares h mapper name f) (gives : f.returns = none) :
      Reads h mapper name (.error (.skipped (h.place mapper name) "Factory method must declare its DAO return type"))
  | noArgument (declares : Declares h mapper name f) (gives : f.returns = some form) (stops : unwrap form = .error kind) :
      Reads h mapper name (.error (.raised kind))
  | noClass (declares : Declares h mapper name f) (gives : f.returns = some form)
      (unwraps : unwrap form = .ok (result, isAsync)) (foreign : result.class? = none)
      (text : form.shown h.type = .ok s) : Reads h mapper name (.error (.skipped (h.place mapper name)
        ("Return type must be a DAO class or Awaitable of one (got " ++ s ++ ")")))
  | noText (declares : Declares h mapper name f) (gives : f.returns = some form)
      (unwraps : unwrap form = .ok (result, isAsync)) (foreign : result.class? = none)
      (text : form.shown h.type = .error kind) : Reads h mapper name (.error (.raised kind))
  | noBuilder (gives : Gives h mapper name f dao isAsync)
      (lacks : h.builder (h.place mapper name) (Mapper.initName isAsync) (h.implementation dao) = .error fault) :
      Reads h mapper name (.error fault)
  | badParameter (builds : Builds h mapper name f dao isAsync)
      (stops : h.readParameters (h.place mapper name) f = .error fault) : Reads h mapper name (.error fault)
  | noReference (builds : Builds h mapper name f dao isAsync)
      (all : h.readParameters (h.place mapper name) f = .ok parameters)
      (text : h.implementerRef (h.implementation dao) = .error kind) : Reads h mapper name (.error (.raised kind))
  | method (builds : Builds h mapper name f dao isAsync)
      (all : h.readParameters (h.place mapper name) f = .ok parameters)
      (text : h.implementerRef (h.implementation dao) = .ok maker) :
      Reads h mapper name (.ok ⟨⟨(h.type mapper).qualname, name, parameters, h.type dao, isAsync⟩, maker⟩)

theorem class_cls {a : TypeForm} (known : a.class? = some c) : a = .cls c := by
  cases a <;> cases known
  rfl

theorem reads_method {h : Hierarchy} (reads : Reads h mapper name result) : h.method mapper name = result := by
  cases reads with
  | otherKind other =>
    unfold Hierarchy.method
    split
    · rename_i found
      exact absurd found (other _ _)
    · rfl
  | unknown found fault | unread found fault =>
    simp only [Hierarchy.method, found, fault]
    rfl
  | bare declares gives =>
    obtain ⟨⟨_, found⟩, sound⟩ := declares
    simp only [Hierarchy.method, found, sound, gives]
    rfl
  | noArgument declares gives stops =>
    obtain ⟨⟨_, found⟩, sound⟩ := declares
    simp only [Hierarchy.method, found, sound, gives, stops]
    rfl
  | noClass declares gives unwraps foreign text =>
    obtain ⟨⟨_, found⟩, sound⟩ := declares
    simp only [Hierarchy.method, found, sound, gives, unwraps, foreign, text, Except.mapError, bind, Except.bind]
    rfl
  | noText declares gives unwraps foreign text =>
    obtain ⟨⟨_, found⟩, sound⟩ := declares
    simp only [Hierarchy.method, found, sound, gives, unwraps, foreign, text, Except.mapError, bind, Except.bind]
  | noBuilder gives lacks =>
    obtain ⟨⟨⟨_, found⟩, sound⟩, _, gives, unwraps⟩ := gives
    rw [Hierarchy.place] at lacks
    simp only [Hierarchy.method, found, sound, gives, unwraps, TypeForm.class?, lacks, Except.mapError, bind, Except.bind]
  | badParameter builds stops =>
    obtain ⟨⟨⟨⟨_, found⟩, sound⟩, _, gives, unwraps⟩, built⟩ := builds
    rw [Hierarchy.readParameters] at stops
    rw [Hierarchy.place] at built stops
    simp only [Hierarchy.method, found, sound, gives, unwraps, TypeForm.class?, built, stops, Except.mapError, bind,
      Except.bind]
  | noReference builds all text =>
    obtain ⟨⟨⟨⟨_, found⟩, sound⟩, _, gives, unwraps⟩, built⟩ := builds
    rw [Hierarchy.readParameters] at all
    rw [Hierarchy.place] at built all
    simp only [Hierarchy.method, found, sound, gives, unwraps, TypeForm.class?, built, all, text, Except.mapError, bind,
      Except.bind]
  | method builds all text =>
    obtain ⟨⟨⟨⟨_, found⟩, sound⟩, _, gives, unwraps⟩, built⟩ := builds
    rw [Hierarchy.readParameters] at all
    rw [Hierarchy.place] at built all
    simp only [Hierarchy.method, found, sound, gives, unwraps, TypeForm.class?, built, all, text, Except.mapError, bind,
      Except.bind]
    rfl

theorem method_reads (h : Hierarchy) (mapper : ClassId) (name : String) : Reads h mapper name (h.method mapper name) := by
  have settle {result : Except MethodFault FactoryMethod} (reads : Reads h mapper name result) :
      Reads h mapper name (h.method mapper name) := by
    rw [reads_method reads]
    exact reads
  by_cases found : ∃ f isAbstract, h.attribute? mapper name = some (.function f isAbstract)
  · obtain ⟨f, isAbstract, found⟩ := found
    cases fault : f.fault with
    | some kind =>
      cases kind with
      | unknown message => exact settle (.unknown found fault)
      | raised kind => exact settle (.unread found fault)
    | none =>
      have declares : Declares h mapper name f := ⟨⟨isAbstract, found⟩, fault⟩
      cases gives : f.returns with
      | none => exact settle (.bare declares gives)
      | some form =>
        cases unwraps : unwrap form with
        | error kind => exact settle (.noArgument declares gives unwraps)
        | ok unwrapped =>
          obtain ⟨result, isAsync⟩ := unwrapped
          cases known : result.class? with
          | none =>
            cases text : form.shown h.type with
            | error kind => exact settle (.noText declares gives unwraps known text)
            | ok s => exact settle (.noClass declares gives unwraps known text)
          | some dao =>
            obtain rfl := class_cls known
            have giving : Gives h mapper name f dao isAsync := ⟨declares, form, gives, unwraps⟩
            cases built : h.builder (h.place mapper name) (Mapper.initName isAsync) (h.implementation dao) with
            | error fault => exact settle (.noBuilder giving built)
            | ok =>
              have building : Builds h mapper name f dao isAsync := ⟨giving, built⟩
              cases all : h.readParameters (h.place mapper name) f with
              | error fault => exact settle (.badParameter building all)
              | ok parameters =>
                cases text : h.implementerRef (h.implementation dao) with
                | error kind => exact settle (.noReference building all text)
                | ok maker => exact settle (.method building all text)
  · exact settle (.otherKind fun f isAbstract there => found ⟨f, isAbstract, there⟩)

theorem method_name {h : Hierarchy} (read : h.method mapper name = .ok m) : m.signature.name = name := by
  have reads := method_reads h mapper name
  rw [read] at reads
  cases reads
  rfl

section outcome

variable (h : Hierarchy) (mapper : ClassId) (name : String)

-- One of the three: a method, an error, or an exception.
def Hierarchy.readable? : Option FactoryMethod := (h.method mapper name).toOption

def Hierarchy.problem? : Option Diagnostic :=
  match h.method mapper name with
  | .error (.skipped location message) => some ⟨true, location, message⟩
  | _ => none

def Hierarchy.fault? : Option String :=
  match h.method mapper name with
  | .error (.raised kind) => some kind
  | _ => none

end outcome

section names

variable {h : Hierarchy} {c : ClassId}

theorem readable_or_problem (fine : h.fault? c name = none) : (h.readable? c name).isSome = !(h.problem? c name).isSome := by
  unfold Hierarchy.fault? at fine
  unfold Hierarchy.readable? Hierarchy.problem?
  cases read : h.method c name with
  | ok m => rfl
  | error fault =>
    cases fault with
    | skipped => rfl
    | raised kind => simp [read] at fine

theorem readable_name (readable : h.readable? c name = some m) : h.method c name = .ok m := by
  unfold Hierarchy.readable? at readable
  cases read : h.method c name with
  | ok m => simpa [read, Except.toOption] using readable
  | error fault => simp [read, Except.toOption] at readable

theorem readable_names (h : Hierarchy) (c : ClassId) (names : List String) :
    (names.filterMap (h.readable? c)).map (·.signature.name) = names.filter fun name => (h.readable? c name).isSome := by
  induction names with
  | nil => rfl
  | cons name rest ih =>
    cases readable : h.readable? c name with
    | none => rw [List.filterMap_cons_none readable, List.filter_cons_of_neg (by simp [readable]), ih]
    | some m =>
      rw [List.filterMap_cons_some readable, List.filter_cons_of_pos (by simp [readable]), List.map_cons, ih,
        method_name (readable_name readable)]

theorem problems_listed (h : Hierarchy) (c : ClassId) (names : List String) :
    List.Forall₂ (fun name e => h.problem? c name = some e) (names.filter fun name => (h.problem? c name).isSome)
      (names.filterMap (h.problem? c)) := by
  induction names with
  | nil => exact .nil
  | cons name rest ih =>
    cases reported : h.problem? c name with
    | none => rwa [List.filterMap_cons_none reported, List.filter_cons_of_neg (by simp [reported])]
    | some e =>
      rw [List.filterMap_cons_some reported, List.filter_cons_of_pos (by simp [reported])]
      exact .cons reported ih

theorem problems_filter (h : Hierarchy) (c : ClassId) (names : List String) :
    names.filterMap (h.problem? c) =
      (names.filter fun name => (h.problem? c name).isSome).filterMap (h.problem? c) := by
  rw [List.filterMap_filter]
  apply List.filterMap_congr
  intro name _
  cases h.problem? c name <;> rfl

end names

section readAll

variable {h : Hierarchy} {mapper : ClassId} {s next : Scanned} {names front back : List String}

structure Through (h : Hierarchy) (mapper : ClassId) (names : List String) (s next : Scanned) : Prop where
  methods : next.methods = s.methods ++ names.filterMap (h.readable? mapper)
  skipped : next.skipped = s.skipped ++ names.filter fun name => (h.problem? mapper name).isSome
  diagnostics : next.report.diagnostics = s.report.diagnostics ++ names.filterMap (h.problem? mapper)

theorem Through.method (read : h.method mapper name = .ok m)
    (rest : Through h mapper names { s with methods := s.methods ++ [m] } next) :
    Through h mapper (name :: names) s next where
  methods := by
    rw [rest.methods, List.filterMap_cons_some (b := m) (by simp [Hierarchy.readable?, read, Except.toOption])]
    simp
  skipped := by rw [rest.skipped, List.filter_cons_of_neg (by simp [Hierarchy.problem?, read])]
  diagnostics := by rw [rest.diagnostics, List.filterMap_cons_none (by simp [Hierarchy.problem?, read])]

theorem Through.problem (read : h.method mapper name = .error (.skipped location message))
    (rest : Through h mapper names
      { s with skipped := s.skipped ++ [name], report := s.report.error location message } next) :
    Through h mapper (name :: names) s next where
  methods := by
    rw [rest.methods, List.filterMap_cons_none (by simp [Hierarchy.readable?, read, Except.toOption])]
  skipped := by
    rw [rest.skipped, List.filter_cons_of_pos (by simp [Hierarchy.problem?, read])]
    simp
  diagnostics := by
    rw [rest.diagnostics,
      List.filterMap_cons_some (b := ⟨true, location, message⟩) (by simp [Hierarchy.problem?, read])]
    simp [Report.error]

theorem readAll_front (sound : ∀ name ∈ front, h.fault? mapper name = none) (s : Scanned) :
    ∃ next, Through h mapper front s next ∧
      ∀ back, s.readAll h mapper (front ++ back) = next.readAll h mapper back := by
  induction front generalizing s with
  | nil => exact ⟨s, ⟨by simp, by simp, by simp⟩, fun _ => rfl⟩
  | cons name rest ih =>
    have fine := sound name List.mem_cons_self
    have later := ih (fun other member => sound other (List.mem_cons_of_mem name member))
    cases read : h.method mapper name with
    | ok m =>
      obtain ⟨next, through, onward⟩ := later { s with methods := s.methods ++ [m] }
      refine ⟨next, through.method read, ?_⟩
      intro back
      rw [List.cons_append, Scanned.readAll, read]
      exact onward back
    | error fault =>
      cases fault with
      | raised kind => simp [Hierarchy.fault?, read] at fine
      | skipped location message =>
        obtain ⟨next, through, onward⟩ :=
          later { s with skipped := s.skipped ++ [name], report := s.report.error location message }
        refine ⟨next, through.problem read, ?_⟩
        intro back
        rw [List.cons_append, Scanned.readAll, read]
        exact onward back

theorem readAll_through (sound : ∀ name ∈ names, h.fault? mapper name = none) (s : Scanned) :
    ∃ next, Through h mapper names s next ∧ s.readAll h mapper names = (next, none) := by
  obtain ⟨next, through, onward⟩ := readAll_front sound s
  refine ⟨next, through, ?_⟩
  have whole := onward []
  rwa [List.append_nil, Scanned.readAll] at whole

theorem readAll_stops (sound : ∀ name ∈ front, h.fault? mapper name = none) (fault : h.fault? mapper name = some kind)
    (back : List String) (s : Scanned) :
    ∃ next, Through h mapper front s next ∧ s.readAll h mapper (front ++ name :: back) = (next, some kind) := by
  obtain ⟨next, through, onward⟩ := readAll_front sound s
  refine ⟨next, through, ?_⟩
  rw [onward, Scanned.readAll]
  unfold Hierarchy.fault? at fault
  split at fault
  · rename_i read
    cases fault
    rw [read]
  · cases fault

theorem sound_or_fault (h : Hierarchy) (mapper : ClassId) (names : List String) :
    (∀ name ∈ names, h.fault? mapper name = none) ∨
      ∃ front name back kind, names = front ++ name :: back ∧ (∀ other ∈ front, h.fault? mapper other = none) ∧
        h.fault? mapper name = some kind := by
  cases found : names.find? fun name => (h.fault? mapper name).isSome with
  | none =>
    left
    intro name member
    simpa using List.find?_eq_none.mp found name member
  | some name =>
    right
    obtain ⟨faulty, front, back, split, sound⟩ := List.find?_eq_some_iff_append.mp found
    obtain ⟨kind, fault⟩ := Option.isSome_iff_exists.mp faulty
    exact ⟨front, name, back, kind, split, fun other member => by simpa using sound other member, fault⟩

end readAll

section scanClass

variable {h : Hierarchy} {c : ClassId} {next : Scanned}

theorem Through.read (through : Through h c names ⟨[], [], report⟩ next) : next.methods.map (·.signature.name) =
    names.filter fun name => (h.readable? c name).isSome := by
  rw [through.methods, List.nil_append, readable_names]

theorem Through.left (through : Through h c names ⟨[], [], report⟩ next) (sound : ∀ name ∈ names, h.fault? c name = none) :
    next.skipped = names.filter fun name => !(h.readable? c name).isSome := by
  rw [through.skipped, List.nil_append]
  exact List.filter_congr fun name member => by simp [readable_or_problem (sound name member)]

theorem Through.parted (through : Through h c names ⟨[], [], report⟩ next)
    (sound : ∀ name ∈ names, h.fault? c name = none) :
    (next.methods.map (·.signature.name) ++ next.skipped).Perm names := by
  rw [through.read, through.left sound]
  exact List.filter_append_perm _ _

theorem scanClass_through (listed : h.abstractInOrder c ≠ []) (sound : ∀ name ∈ h.abstractInOrder c, h.fault? c name = none)
    (report : Report) : ∃ next after, Through h c (h.abstractInOrder c) ⟨[], [], report⟩ next ∧
      after.diagnostics = next.report.diagnostics ∧
      h.scanClass c report = (after, .ok ⟨h.type c, next.methods, h.membersOf c, next.skipped⟩) := by
  obtain ⟨next, through, read⟩ := readAll_through sound ⟨[], [], report⟩
  refine ⟨next, next.report.log .debug Hierarchy.scannerName ("Scanned " ++ (h.type c).qualname ++ ": " ++
    toString next.methods.length ++ " factory method(s)"), through, rfl, ?_⟩
  unfold Hierarchy.scanClass
  split
  · rename_i none
    exact absurd none listed
  · rw [read]

theorem scanClass_stops (split : h.abstractInOrder c = front ++ name :: back)
    (sound : ∀ other ∈ front, h.fault? c other = none) (fault : h.fault? c name = some kind) (report : Report) :
    ∃ after, after.diagnostics = report.diagnostics ++ front.filterMap (h.problem? c) ∧
      h.scanClass c report = (after, .error (.raised kind)) := by
  obtain ⟨next, through, read⟩ := readAll_stops sound fault back ⟨[], [], report⟩
  refine ⟨next.report, through.diagnostics, ?_⟩
  unfold Hierarchy.scanClass
  dsimp only
  split
  · rename_i none
    simp [none] at split
  · rw [split, read]

theorem scanClass_none (none : h.abstractInOrder c = []) (report : Report) :
    h.scanClass c report = (report, .error (.refused (.noAbstractMethod (h.type c).qualname))) := by
  unfold Hierarchy.scanClass
  rw [none]

theorem scanClass_ok (scanned : h.scanClass c report = (after, .ok d)) :
    ∃ next, (∀ name ∈ h.abstractInOrder c, h.fault? c name = none) ∧
      Through h c (h.abstractInOrder c) ⟨[], [], report⟩ next ∧ after.diagnostics = next.report.diagnostics ∧
      d = ⟨h.type c, next.methods, h.membersOf c, next.skipped⟩ := by
  by_cases none : h.abstractInOrder c = []
  · rw [scanClass_none none] at scanned
    cases scanned
  · rcases sound_or_fault h c (h.abstractInOrder c) with sound | ⟨front, name, back, kind, split, sound, fault⟩
    · obtain ⟨next, end', through, ended, scan⟩ := scanClass_through none sound report
      rw [scanned] at scan
      cases scan
      exact ⟨next, sound, through, ended, rfl⟩
    · obtain ⟨end', _, scan⟩ := scanClass_stops split sound fault report
      rw [scanned] at scan
      cases scan

end scanClass

theorem scan_other {h : Hierarchy} {target : Constant} (other : ∀ c, target ≠ .type c) (report : Report) :
    h.scan target report = (report, .error
      (match target.shown h.type with
      | .ok text => .refused (.notClass text)
      | .error kind => .raised kind)) := by
  unfold Hierarchy.scan
  split
  · rename_i c
    exact absurd rfl (other c)
  · split <;> simp only [*]

theorem scan_class {h : Hierarchy} {target : Constant} (scanned : h.scan target report = (after, .ok d)) :
    ∃ c, target = .type c ∧ h.scanClass c report = (after, .ok d) := by
  by_cases known : ∃ c, target = .type c
  · obtain ⟨c, rfl⟩ := known
    exact ⟨c, rfl, scanned⟩
  · rw [scan_other (not_exists.mp known)] at scanned
    cases scanned

end DaoMapper.Interface
