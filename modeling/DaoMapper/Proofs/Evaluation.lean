import DaoMapper.Execution.Session
import DaoMapper.Proofs.Scope

-- How generated code runs: what its steps give and what they leave on the heap.
namespace DaoMapper.Interface

def Hierarchy.leadsTo (h : Hierarchy) (c : ClassId) : List String → Option ClassId
  | [] => some c
  | part :: rest => (h.innerClass? c part).bind fun inner => h.leadsTo inner rest

def Hierarchy.find? (h : Hierarchy) (t : Mapper.TypeRef) : Option ClassId :=
  (h.classAt? t.module t.importName).bind fun c => h.leadsTo c t.path

def Hierarchy.builds (h : Hierarchy) (c : ClassId) (isAsync : Bool) : Bool :=
  (h.innerClass? c (Mapper.initName isAsync)).isNone &&
    match h.attribute? c (Mapper.initName isAsync) with
    | some (.builder kind) => decide (kind = .awaited ↔ isAsync = true)
    | _ => false

end DaoMapper.Interface

namespace DaoMapper.Execution

open Code
open Interface (ClassId Hierarchy)
open Mapper (TypeRef typeExpr)

def ends (e : Eval α) (heap : Heap) : Except Failure α × Heap := e.run.run heap

@[simp] theorem ends_pure (a : α) (heap : Heap) : ends (pure a) heap = (.ok a, heap) := rfl

@[simp] theorem ends_throw (f : Failure) (heap : Heap) : ends (throw f : Eval α) heap = (.error f, heap) := rfl

@[simp] theorem ends_get (heap : Heap) : ends get heap = (.ok heap, heap) := rfl

@[simp] theorem ends_set (next heap : Heap) : ends (set next) heap = (.ok ⟨⟩, next) := rfl

@[simp] theorem ends_modify (f : Heap → Heap) (heap : Heap) : ends (modify f : Eval Unit) heap = (.ok ⟨⟩, f heap) :=
  rfl

theorem ends_bind (e : Eval α) (f : α → Eval β) (heap : Heap) :
    ends (e >>= f) heap = match ends e heap with
      | (.ok a, next) => ends (f a) next
      | (.error x, next) => (.error x, next) := by
  unfold ends
  simp only [bind, ExceptT.bind, ExceptT.mk, ExceptT.run, StateT.run, StateT.bind, ExceptT.bindCont]
  cases e heap with
  | mk result next => cases result <;> rfl

theorem ends_bind_ok {e : Eval α} (done : ends e heap = (.ok a, next)) (f : α → Eval β) :
    ends (e >>= f) heap = ends (f a) next := by
  rw [ends_bind, done]

theorem ends_bind_error {e : Eval α} (failed : ends e heap = (.error x, next)) (f : α → Eval β) :
    ends (e >>= f) heap = (.error x, next) := by
  rw [ends_bind, failed]

theorem ends_map (f : α → β) (e : Eval α) (heap : Heap) :
    ends (f <$> e) heap = match ends e heap with
      | (.ok a, next) => (.ok (f a), next)
      | (.error x, next) => (.error x, next) := by
  unfold ends
  simp only [Functor.map, ExceptT.map, ExceptT.mk, ExceptT.run, StateT.run, StateT.bind, bind]
  cases e heap with
  | mk result next => cases result <;> rfl

theorem ends_tryCatch (e : Eval α) (handle : Failure → Eval α) (heap : Heap) :
    ends (tryCatch e handle) heap = match ends e heap with
      | (.ok a, next) => (.ok a, next)
      | (.error x, next) => ends (handle x) next := by
  unfold ends
  simp only [tryCatch, tryCatchThe, MonadExceptOf.tryCatch, ExceptT.tryCatch, ExceptT.mk, ExceptT.run, StateT.run,
    StateT.bind, bind]
  cases e heap with
  | mk result next => cases result <;> rfl

theorem ends_bind_inv {e : Eval α} {f : α → Eval β} (done : ends (e >>= f) heap = (.ok b, last)) :
    ∃ a next, ends e heap = (.ok a, next) ∧ ends (f a) next = (.ok b, last) := by
  rw [ends_bind] at done
  cases first : ends e heap with
  | mk result next =>
    cases result with
    | ok a => exact ⟨a, next, rfl, by simpa [first] using done⟩
    | error x => simp [first] at done

-- Variables: what is looked up is what was bound or assigned last.
namespace Variables

variable {bound : Variables}

@[simp] theorem get?_nil (name : String) : get? [] name = none := rfl

@[simp] theorem get?_cons_same (name : String) (o : Object) : get? ((name, o) :: bound) name = some o := by
  simp [get?]

theorem get?_cons_other (o : Object) (other : wanted ≠ name) :
    get? ((name, o) :: bound) wanted = get? bound wanted := by
  simp [get?, Ne.symm other]

theorem get?_none : get? bound name = none ↔ name ∉ bound.map (·.1) := by
  simp [get?]
  grind

theorem get?_assign_same (bound : Variables) (name : String) (o : Object) :
    (bound.assign name o).get? name = some o := by
  induction bound with
  | nil => simp [assign]
  | cons entry rest ih =>
    obtain ⟨n, old⟩ := entry
    unfold assign
    split
    · rename_i same
      obtain rfl : n = name := by simpa using same
      simp
    · rename_i other
      have other : name ≠ n := by
        intro same
        simp [same] at other
      rw [get?_cons_other _ other, ih]

theorem get?_assign_other (bound : Variables) (o : Object) (other : wanted ≠ name) :
    (bound.assign name o).get? wanted = bound.get? wanted := by
  induction bound with
  | nil => simp [assign, get?_cons_other o other]
  | cons entry rest ih =>
    obtain ⟨n, old⟩ := entry
    unfold assign
    split
    · rename_i same
      obtain rfl : n = name := by simpa using same
      rw [get?_cons_other _ other, get?_cons_other _ other]
    · by_cases here : wanted = n
      · subst here
        simp
      · rw [get?_cons_other _ here, get?_cons_other _ here, ih]

end Variables

section

variable {m : Loaded} {invoke : Object → List Object → Eval Object} {bound : Variables} {heap next : Heap}

theorem ends_name (found : (bound.get? name).or (m.global? name) = some o) :
    ends (eval m invoke bound (.name name)) heap = (.ok o, heap) := by
  rw [eval, lookUp, found]
  rfl

theorem ends_variable (found : bound.get? name = some o) :
    ends (eval m invoke bound (.name name)) heap = (.ok o, heap) :=
  ends_name (by rw [found]; rfl)

theorem ends_global (free : bound.get? name = none) (found : m.global? name = some o) :
    ends (eval m invoke bound (.name name)) heap = (.ok o, heap) :=
  ends_name (by rw [free, found]; rfl)

theorem ends_field (value : ends (eval m invoke bound e) heap = (.ok o, next)) :
    ends (eval m invoke bound (.field e name)) heap = ends (member m o name) next := by
  rw [eval, ends_bind_ok value]

theorem ends_classMember (found : classMember? m.hierarchy c name = some o) :
    ends (member m (.cls c) name) heap = (.ok o, heap) := by
  simp [member, ends_map, found]

theorem ends_mapperMember (found : mapperMember? m (heap.mappers[n]?.getD []) n name = some o) :
    ends (member m (.mapper n) name) heap = (.ok o, heap) := by
  simp [member, ends_bind, found]

theorem ends_ownField {fields : Variables} (seated : heap.mappers[n]? = some fields)
    (held : fields.get? name = some o) : ends (member m (.mapper n) name) heap = (.ok o, heap) :=
  ends_mapperMember (by simp [mapperMember?, seated, held])

theorem ends_leadsTo (value : ends (eval m invoke bound e) heap = (.ok (.cls c), heap))
    (way : m.hierarchy.leadsTo c parts = some last) :
    ends (eval m invoke bound (parts.foldl Expr.field e)) heap = (.ok (.cls last), heap) := by
  induction parts generalizing e c with
  | nil =>
    cases way
    exact value
  | cons part rest ih =>
    obtain ⟨inner, found, way⟩ := Option.bind_eq_some_iff.mp way
    refine ih ?_ way
    rw [ends_field value]
    exact ends_classMember (by simp [classMember?, found])

theorem ends_typeExpr {t : TypeRef} (free : bound.get? t.importName = none)
    (known : m.global? t.importName = (m.hierarchy.classAt? t.module t.importName).map .cls)
    (found : m.hierarchy.find? t = some c) :
    ends (eval m invoke bound (typeExpr t)) heap = (.ok (.cls c), heap) := by
  obtain ⟨first, there, way⟩ := Option.bind_eq_some_iff.mp found
  rw [Mapper.typeExpr_fields]
  refine ends_leadsTo (ends_global free ?_) way
  rw [known, there]
  rfl

theorem ends_call (function : ends (eval m invoke bound e) heap = (.ok f, middle))
    (values : ends (evalAll m invoke bound arguments) middle = (.ok os, next))
    (known : ∀ parameters body inner, f ≠ .closure parameters body inner) :
    ends (eval m invoke bound (.call e arguments)) heap = ends (callKnown m invoke f os) next := by
  rw [eval, ends_bind_ok function, ends_bind_ok values]
  cases f with
  | closure parameters body inner => exact absurd rfl (known parameters body inner)
  | _ => rfl

theorem ends_one (value : ends (eval m invoke bound e) heap = (.ok o, next)) :
    ends (evalAll m invoke bound [e]) heap = (.ok [o], next) := by
  simp [evalAll, ends_map, value]

theorem ends_two (first : ends (eval m invoke bound e) heap = (.ok o, middle))
    (second : ends (eval m invoke bound e') middle = (.ok o', next)) :
    ends (evalAll m invoke bound [e, e']) heap = (.ok [o, o'], next) := by
  simp [evalAll, ends_bind, ends_map, first, second]

def Heap.failing? (heap : Heap) (h : Hierarchy) (c : ClassId) : Option Failure :=
  match heap.failing c 0 with
  | some message => some (.constructionFails message)
  | none => if (h.abstractOf c).isEmpty then none else some .unfit

theorem ends_construct_ok (sound : heap.failing? h c = none) (n : Nat) :
    ends (construct h c n) heap =
      (.ok (.dao heap.daos.length), { heap.attempted c with daos := heap.daos ++ [⟨c, n⟩] }) := by
  unfold Heap.failing? at sound
  split at sound
  · cases sound
  · rename_i none
    split at sound
    · rename_i concrete
      simp [construct, ends_bind, ends_map, none, concrete]
    · cases sound

theorem ends_construct_error (fails : heap.failing? h c = some f) (n : Nat) :
    ends (construct h c n) heap = (.error f, heap.attempted c) := by
  unfold Heap.failing? at fails
  split at fails
  · rename_i message raises
    cases fails
    simp [construct, ends_bind, raises]
  · rename_i none
    split at fails
    · cases fails
    · rename_i open_
      cases fails
      simp [construct, ends_bind, none, open_]

theorem ends_newReference (factory : Object) (arguments : List Object) (heap : Heap) :
    ends (newReference factory arguments) heap = (.ok (.reference heap.references.length),
      { heap with references := heap.references ++ [⟨factory, arguments, none⟩] }) := rfl

-- The outer context narrowed by the key, which is itself where nothing changes.
structure Placed (outer : Context) (key : Cql.CacheKey) (contexts : List Context) (n : Nat) : Prop where
  narrowed : contexts[n]? = some (outer.narrowed key.keyspace key.table)
  same : outer.narrow? key.keyspace key.table = none → n = 0

theorem narrowed_same {outer : Context} (unchanged : outer.narrow? keyspace table = none) :
    outer.narrowed keyspace table = outer := by
  unfold Context.narrow? at unchanged
  dsimp only at unchanged
  split at unchanged
  · rename_i same
    obtain ⟨k, t⟩ := same
    simp only [Context.narrowed] at k t
    simp [Context.narrowed, k, t]
  · cases unchanged

theorem asIdentifier_ofIdentifier? (i : Option Cql.Identifier) : asIdentifier (ofIdentifier? i) = some i := by
  cases i <;> rfl

theorem ends_narrow (first : heap.contexts[0]? = some outer) (key : Cql.CacheKey) :
    ∃ n more, ends (narrow 0 (ofIdentifier? key.keyspace) (ofIdentifier? key.table)) heap =
      (.ok (.context n), { heap with contexts := heap.contexts ++ more }) ∧
      Placed outer key (heap.contexts ++ more) n := by
  cases changed : outer.narrow? key.keyspace key.table with
  | none =>
    refine ⟨0, [], ?_, ?_, fun _ => rfl⟩
    · simp [narrow, ends_bind, asIdentifier_ofIdentifier?, first, changed]
    · rw [List.append_nil, narrowed_same changed]
      exact first
  | some next =>
    refine ⟨heap.contexts.length, [next], ?_, ?_, ?_⟩
    · simp [narrow, ends_bind, ends_map, asIdentifier_ofIdentifier?, first, changed]
    · have made : next = outer.narrowed key.keyspace key.table := by
        simp only [Context.narrow?] at changed
        split at changed
        · cases changed
        · exact (Option.some.inj changed).symm
      simp [made]
    · intro unchanged
      simp [changed] at unchanged

structure Builds (h : Hierarchy) (c : ClassId) (isAsync : Bool) : Prop where
  plain : h.innerClass? c (Mapper.initName isAsync) = none
  builder : ∃ kind, h.attribute? c (Mapper.initName isAsync) = some (.builder kind) ∧
    (kind = .awaited ↔ isAsync = true)

theorem builds_iff (h : Hierarchy) (c : ClassId) (isAsync : Bool) :
    h.builds c isAsync = true ↔ Builds h c isAsync := by
  unfold Hierarchy.builds
  rw [Bool.and_eq_true, Option.isNone_iff_eq_none]
  constructor
  · rintro ⟨plain, builder⟩
    refine ⟨plain, ?_⟩
    split at builder
    · rename_i kind found
      exact ⟨kind, found, of_decide_eq_true builder⟩
    · cases builder
  · rintro ⟨plain, kind, found, awaited⟩
    rw [found]
    exact ⟨plain, decide_eq_true awaited⟩

instance (h : Hierarchy) (c : ClassId) (isAsync : Bool) : Decidable (Builds h c isAsync) :=
  decidable_of_iff _ (builds_iff h c isAsync)

theorem ends_build (builds : Builds h c isAsync) (n : Nat) :
    ends (build h c (Mapper.initName isAsync) [.context n]) heap =
      if isAsync then (.ok (.coroutine c n), heap) else ends (construct h c n) heap := by
  obtain ⟨kind, builder, awaited⟩ := builds.builder
  unfold build
  rw [builder]
  cases isAsync with
  | true =>
    obtain rfl := awaited.mpr rfl
    rfl
  | false =>
    have other : kind ≠ .awaited := by
      intro same
      cases awaited.mp same
    cases kind with
    | awaited => exact absurd rfl other
    | immediate => rfl
    | unawaitable => rfl

theorem ends_initName {t : TypeRef} (free : bound.get? t.importName = none)
    (known : m.global? t.importName = (m.hierarchy.classAt? t.module t.importName).map .cls)
    (found : m.hierarchy.find? t = some c) (builds : Builds m.hierarchy c isAsync) :
    ends (eval m invoke bound (.field (typeExpr t) (Mapper.initName isAsync))) heap =
      (.ok (.bound (.cls c) (Mapper.initName isAsync)), heap) := by
  obtain ⟨kind, builder, _⟩ := builds.builder
  rw [ends_field (ends_typeExpr free known found)]
  exact ends_classMember (by simp [classMember?, builds.plain, builder])

theorem ends_construction {t : TypeRef} (free : bound.get? t.importName = none)
    (known : m.global? t.importName = (m.hierarchy.classAt? t.module t.importName).map .cls)
    (found : m.hierarchy.find? t = some c) (builds : Builds m.hierarchy c isAsync)
    (argument : ends (eval m invoke bound e) heap = (.ok (.context n), next)) :
    ends (eval m invoke bound (.call (.field (typeExpr t) (Mapper.initName isAsync)) [e])) heap =
      if isAsync then (.ok (.coroutine c n), next) else ends (construct m.hierarchy c n) next := by
  rw [ends_call (ends_initName free known found builds) (ends_one argument) (by intro _ _ _ same; cases same)]
  exact ends_build builds n

end

end DaoMapper.Execution
