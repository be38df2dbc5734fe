import DaoMapper.Proofs.Clash
import DaoMapper.Proofs.Evaluation

-- What a module is once it has been read: its functions as they stand in its class,
-- and for every imported name what its source offers. Nothing has happened by then.
namespace DaoMapper.Execution

open Code
open Interface (ClassId Hierarchy)
open Mapper (TypeRef typeExpr)

def Keeps (e : Eval α) : Prop := ∀ heap, (ends e heap).2 = heap

theorem keeps_pure (a : α) : Keeps (pure a : Eval α) := fun _ => rfl

theorem keeps_throw (f : Failure) : Keeps (throw f : Eval α) := fun _ => rfl

theorem keeps_bind {e : Eval α} {f : α → Eval β} (first : Keeps e) (then_ : ∀ a, Keeps (f a)) : Keeps (e >>= f) := by
  intro heap
  have same := first heap
  rw [ends_bind]
  cases done : ends e heap with
  | mk result next =>
    obtain rfl : next = heap := by simpa [done] using same
    cases result with
    | ok a => exact then_ a next
    | error x => rfl

theorem keeps_next {e : Eval α} (kept : Keeps e) (done : ends e heap = (result, next)) : next = heap := by
  simpa [done] using kept heap

theorem keeps_member (m : Loaded) (o : Object) (name : String) : Keeps (member m o name) := by
  unfold member
  refine keeps_bind (fun _ => rfl) fun heap => ?_
  dsimp only
  split
  · exact keeps_pure _
  · exact keeps_throw _

theorem keeps_forIn {all : List α} {step : α → PUnit → Eval (ForInStep PUnit)}
    (each : ∀ a ∈ all, Keeps (step a ⟨⟩)) : Keeps (forIn all PUnit.unit step) := by
  induction all with
  | nil => exact keeps_pure _
  | cons a rest ih =>
    rw [List.forIn_cons]
    refine keeps_bind (each a List.mem_cons_self) fun next => ?_
    cases next with
    | done _ => exact keeps_pure _
    | yield _ => exact ih fun b member => each b (List.mem_cons_of_mem _ member)

def Quiet (e : Expr) : Prop := ∀ m invoke bound, Keeps (eval m invoke bound e)

theorem quiet_name (name : String) : Quiet (.name name) := by
  intro m invoke bound
  rw [eval, lookUp]
  split
  · exact keeps_pure _
  · exact keeps_throw _

theorem quiet_field (value : Quiet e) (name : String) : Quiet (.field e name) := by
  intro m invoke bound
  rw [eval]
  exact keeps_bind (value m invoke bound) fun o => keeps_member m o name

theorem quiet_fields (value : Quiet e) (parts : List String) : Quiet (parts.foldl Expr.field e) := by
  induction parts generalizing e with
  | nil => exact value
  | cons part rest ih => exact ih (quiet_field value part)

theorem quiet_subscript (value : Quiet e) (index : Quiet i) : Quiet (.subscript e i) := by
  intro m invoke bound
  rw [eval]
  refine keeps_bind (value m invoke bound) fun o => keeps_bind (index m invoke bound) fun _ => ?_
  split
  · split
    · exact keeps_pure _
    · exact keeps_throw _
  · exact keeps_throw _

theorem quiet_typeExpr (rename : String → String) (t : TypeRef) : Quiet (renamed rename (typeExpr t)) := by
  rw [Mapper.typeExpr_fields, renamed_fields]
  exact quiet_fields (quiet_name _) _

structure QuietSignature (f : Function) : Prop where
  arguments : ∀ a ∈ f.arguments, ∀ t, a.type = some t → Quiet t
  returns : Quiet f.returns

theorem keeps_checkSignatures (m : Loaded) {functions : List Function} (quiet : ∀ f ∈ functions, QuietSignature f)
    (defined : Variables) : Keeps (checkSignatures m defined functions) := by
  induction functions generalizing defined with
  | nil => exact keeps_pure _
  | cons f rest ih =>
    obtain ⟨arguments, returns⟩ := quiet f List.mem_cons_self
    unfold checkSignatures
    refine keeps_bind (keeps_forIn ?_) fun _ => keeps_bind (returns m _ defined) fun _ => ?_
    · intro a member
      cases type : a.type with
      | none => exact keeps_pure _
      | some t => exact keeps_bind (arguments a member t type m _ defined) fun _ => keeps_pure _
    · exact ih (fun g member => quiet g (List.mem_cons_of_mem _ member)) _

theorem quiet_overriding (rename : String → String) (s : Mapper.Signature) (body : List Statement) :
    QuietSignature (renamedFunction rename (Mapper.overriding s body)) := by
  refine ⟨?_, ?_⟩
  · intro a member t type
    obtain ⟨argument, there, rfl⟩ := List.mem_map.mp member
    rcases List.mem_cons.mp there with rfl | declared
    · cases type
    · obtain ⟨p, _, rfl⟩ := List.mem_map.mp declared
      obtain rfl := Option.some.inj type
      exact quiet_typeExpr rename p.type
  · simp only [renamedFunction, Mapper.overriding, Mapper.returnExpr]
    split
    · exact quiet_subscript (quiet_name _) (quiet_typeExpr rename s.returns)
    · exact quiet_typeExpr rename s.returns

theorem quiet_init (rename : String → String) (settings : Settings.Generator) (fs : Mapper.Fields) :
    QuietSignature (renamedFunction rename (Mapper.initFunction settings fs)) := by
  refine ⟨?_, fun _ _ _ => keeps_pure _⟩
  intro a member t type
  simp only [renamedFunction, Mapper.initFunction, List.map_cons, List.map_nil, List.mem_cons, List.not_mem_nil,
    or_false] at member
  rcases member with rfl | rfl
  · cases type
  · obtain rfl := Option.some.inj type
    exact quiet_name _

def bindWanted (h : Hierarchy) (bound : Variables) (wanted : List (String × String)) : Eval Variables :=
  wanted.foldlM (fun (bound : Variables) (module, name) =>
    match offered? h module name with
    | some o => return bound.bind name o
    | none => throw .notImportable) bound

theorem bindWanted_cons (done : ends (bindWanted h bound ((source, name) :: rest)) heap = (.ok result, next)) :
    ∃ o, offered? h source name = some o ∧ ends (bindWanted h (bound.bind name o) rest) heap = (.ok result, next) := by
  unfold bindWanted at done ⊢
  rw [List.foldlM_cons] at done
  dsimp only at done
  cases offer : offered? h source name with
  | none => simp [offer] at done
  | some o => exact ⟨o, rfl, by simpa [offer] using done⟩

theorem bindWanted_other (done : ends (bindWanted h bound wanted) heap = (.ok result, next))
    (absent : name ∉ wanted.map (·.2)) : result.get? name = bound.get? name := by
  induction wanted generalizing bound with
  | nil =>
    cases done
    rfl
  | cons w rest ih =>
    obtain ⟨source, first⟩ := w
    obtain ⟨o, _, done⟩ := bindWanted_cons done
    simp only [List.map_cons, List.mem_cons, not_or] at absent
    rw [ih done absent.2]
    exact Variables.get?_cons_other o absent.1

theorem bindWanted_offers (done : ends (bindWanted h bound wanted) heap = (.ok result, next))
    (once : ∀ w ∈ wanted, w.2 = name → w.1 = source) (there : (source, name) ∈ wanted) :
    (offered? h source name).isSome ∧ result.get? name = offered? h source name := by
  induction wanted generalizing bound with
  | nil => cases there
  | cons w rest ih =>
    obtain ⟨module, first⟩ := w
    obtain ⟨o, offer, rested⟩ := bindWanted_cons done
    by_cases again : (source, name) ∈ rest
    · exact ih rested (fun w member => once w (List.mem_cons_of_mem _ member)) again
    · rcases List.mem_cons.mp there with same | later
      · cases same
        refine ⟨by rw [offer]; rfl, ?_⟩
        -- An import that brings the name again would bring it from the same source.
        have absent : name ∉ rest.map (·.2) := by
          intro member
          obtain ⟨⟨other, _⟩, listed, rfl⟩ := List.mem_map.mp member
          have same := once _ (List.mem_cons_of_mem _ listed) rfl
          exact again (same ▸ listed)
        rw [bindWanted_other rested absent, offer]
        exact Variables.get?_cons_same _ _
      · exact absurd later again

theorem keeps_bindWanted (h : Hierarchy) (bound : Variables) (wanted : List (String × String)) :
    Keeps (bindWanted h bound wanted) := by
  induction wanted generalizing bound with
  | nil => exact keeps_pure _
  | cons w rest ih =>
    obtain ⟨source, name⟩ := w
    unfold bindWanted
    rw [List.foldlM_cons]
    refine keeps_bind ?_ fun bound => ih bound
    dsimp only
    split
    · exact keeps_pure _
    · exact keeps_throw _

def loadedFunctions (m : Module) : List Function := m.body.methods.map (renamedFunction (inClass m.body.name))

structure Read (h : Hierarchy) (module : Module) (m : Loaded) (globals : Variables) : Prop where
  hierarchy : m.hierarchy = h
  functions : m.functions = loadedFunctions module
  names : m.globals = globals.bind (Text.normal module.body.name) .generated
  imports : ∃ heap, ends (bindImports h module.imports) heap = (.ok globals, heap)

theorem load_read (done : ends (load h module) heap = (.ok m, next))
    (base : Quiet (renamed Text.normal module.body.base))
    (quiet : ∀ f ∈ loadedFunctions module, QuietSignature f) :
    next = heap ∧ ∃ globals, Read h module m globals := by
  unfold load at done
  dsimp only at done
  split at done
  · simp at done
  · obtain ⟨globals, first, bound, based⟩ := ends_bind_inv done
    obtain rfl := keeps_next (keeps_bindWanted h [] _) bound
    obtain ⟨o, second, evaluated, checks⟩ := ends_bind_inv based
    obtain rfl := keeps_next (base _ _ _) evaluated
    split at checks
    · obtain ⟨_, third, checked, made⟩ := ends_bind_inv checks
      obtain rfl := keeps_next (keeps_checkSignatures _ quiet _) checked
      cases made
      exact ⟨rfl, globals, rfl, rfl, rfl, _, bound⟩
    · cases checks

end DaoMapper.Execution
