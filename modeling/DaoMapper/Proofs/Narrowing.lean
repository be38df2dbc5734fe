import DaoMapper.Context
import Mathlib

-- Contexts narrowed from one another: each has what was given last on the way to it from a
-- created one, and shares the custom state with all that come from the same one.
namespace DaoMapper

open Cql

structure Sides where
  keyspace : Option Identifier
  table : Option Identifier

def Sides.over (second first : Sides) : Sides := ⟨second.keyspace.or first.keyspace, second.table.or first.table⟩

def lastGiven (names : List (Option Identifier)) : Option Identifier := names.reverse.findSome? id

def Context.narrowedTo (c : Context) (sides : Sides) : Context := c.narrowed sides.keyspace sides.table

section Sides

def Sides.last (path : List Sides) : Sides := ⟨lastGiven (path.map (·.keyspace)), lastGiven (path.map (·.table))⟩

theorem Sides.last_snoc (path : List Sides) (sides : Sides) : last (path ++ [sides]) = sides.over (last path) := by
  have behind (given : Option Identifier) (names : List (Option Identifier)) :
      lastGiven (names ++ [given]) = given.or (lastGiven names) := by
    rw [lastGiven, List.reverse_append, List.findSome?_append, lastGiven]
    cases given <;> rfl
  rw [last, List.map_append, List.map_append, List.map_singleton, List.map_singleton, behind, behind]
  rfl

theorem Context.narrowedTo_over (c : Context) (first second : Sides) :
    (c.narrowedTo first).narrowedTo second = c.narrowedTo (second.over first) := by
  simp only [narrowedTo, narrowed, Sides.over, Option.or_assoc]

theorem Context.narrowedTo_same_iff (c : Context) (sides : Sides) : c.narrowedTo sides = c ↔
    (∀ i, sides.keyspace = some i → c.keyspace = some i) ∧ (∀ i, sides.table = some i → c.table = some i) := by
  have side (given own : Option Identifier) : given.or own = own ↔ ∀ i, given = some i → own = some i := by
    cases given <;> simp [eq_comm]
  rw [← side, ← side]
  constructor
  · intro same
    exact ⟨congrArg Context.keyspace same, congrArg Context.table same⟩
  · rintro ⟨keyspace, table⟩
    rw [narrowedTo, narrowed, keyspace, table]

end Sides

namespace Contexts

def narrowTo (cs : Contexts) (source : Nat) (sides : Sides) : Nat × Contexts :=
  cs.narrow source sides.keyspace sides.table

inductive Event where
  | created (made : Nat) (session : Value) (sides : Sides) (state : CustomState)
  | narrowed (source made : Nat) (sides : Sides)
  | written (through : Nat) (key : String) (value : Value)

-- A name that cannot be read makes no context and leaves no event.
inductive Run : List Event → Contexts → Prop where
  | start : Run [] .empty
  | create (before : Run history cs) (keyspace : k.resolve = .ok sides.keyspace) (table : t.resolve = .ok sides.table)
      (made : cs.create session k t state = .ok (n, next)) : Run (history ++ [.created n session sides state]) next
  | narrow (before : Run history cs) (there : source < cs.made.length)
      (narrowed : cs.narrowTo source sides = (n, next)) : Run (history ++ [.narrowed source n sides]) next
  | write (before : Run history cs) (there : through < cs.made.length) :
      Run (history ++ [.written through key value]) (cs.setState through key value)

-- The oldest narrowing first; one that changes nothing may be among them.
inductive Reached : List Event → Nat → Nat → List Sides → Prop where
  | created : Reached (history ++ [.created n session sides state]) n n []
  | narrowed (source : Reached history r c path) : Reached (history ++ [.narrowed c n sides]) r n (path ++ [sides])
  | later (before : Reached history r c path) (e : Event) : Reached (history ++ [e]) r c path

def Derived (history : List Event) (r c : Nat) : Prop := ∃ path, Reached history r c path

def LastWritten (history : List Event) (r : Nat) (key : String) (value : Value) : Prop :=
  ∃ early through late, history = early ++ .written through key value :: late ∧ Derived history r through ∧
    ∀ other w, .written other key w ∈ late → ¬ Derived history r other

def Unwritten (history : List Event) (r : Nat) (key : String) : Prop :=
  ∀ through w, .written through key w ∈ history → ¬ Derived history r through

structure Narrows (history : List Event) (cs : Contexts) : Prop where
  -- On each side the last name given wins, then the creator's.
  overrides : ∀ r session sides state, .created r session sides state ∈ history → ∀ c path, Reached history r c path →
    ∃ context, cs.made[c]? = some context ∧ context.session = session ∧
      context.keyspace = (lastGiven (path.map (·.keyspace))).or sides.keyspace ∧
      context.table = (lastGiven (path.map (·.table))).or sides.table
  origin : ∀ c, c < cs.made.length → ∃! r, Derived history r c
  twice : ∀ c first second, c < cs.made.length →
    let (middle, between) := cs.narrowTo c first
    let (last, after) := between.narrowTo middle second
    let (once, other) := cs.narrowTo c (second.over first)
    ∃ context, after.made[last]? = some context ∧ other.made[once]? = some context
  -- It is the very same context just where neither side changes, and else a new one.
  itself : ∀ c context sides, cs.made[c]? = some context →
    ((cs.narrowTo c sides).1 = c ↔
      (∀ i, sides.keyspace = some i → context.keyspace = some i) ∧ (∀ i, sides.table = some i → context.table = some i)) ∧
    ((cs.narrowTo c sides).1 = c ∨ (cs.narrowTo c sides).1 = cs.made.length)
  unaltered : ∀ c sides d context, cs.made[d]? = some context →
    (cs.narrowTo c sides).2.made[d]? = some context ∧ (cs.narrowTo c sides).2.stateOf d = cs.stateOf d
  -- A write shows in the contexts derived from the same created one, and in no other.
  shown : ∀ through key value r c, Derived history r through → c < cs.made.length →
    (Derived history r c → (cs.setState through key value).stateOf c = (cs.stateOf c).set key value) ∧
      (¬ Derived history r c → (cs.setState through key value).stateOf c = cs.stateOf c)
  -- So each reads the last write through any of its kind, before that what came first.
  reads : ∀ r session sides state, .created r session sides state ∈ history → ∀ c key, Derived history r c →
    (∀ value, LastWritten history r key value → (cs.stateOf c).get? key = some value) ∧
      (Unwritten history r key → (cs.stateOf c).get? key = state.get? key)

section Steps

variable {cs next : Contexts} {context other : Context} {c d n through : Nat} {sides : Sides}

theorem at_snoc {α : Type} {xs : List α} {x y : α} : (xs ++ [x])[c]? = some y ↔ xs[c]? = some y ∨ c = xs.length ∧ x = y := by
  grind

theorem narrowTo_cases (there : cs.made[c]? = some context) (sides : Sides) :
    context.narrowedTo sides = context ∧ cs.narrowTo c sides = (c, cs) ∨
      context.narrowedTo sides ≠ context ∧
        cs.narrowTo c sides = (cs.made.length, { cs with made := cs.made ++ [context.narrowedTo sides] }) := by
  rw [narrowTo, narrow, there, Option.bind_some, Context.narrow?]
  split
  · rename_i absent
    split at absent
    · rename_i same
      refine .inl ⟨?_, rfl⟩
      rw [Context.narrowedTo, Context.narrowed]
      exact congrArg₂ (Context.mk context.session · · context.state) same.1 same.2
    · cases absent
  · rename_i added
    split at added
    · cases added
    · rename_i changes
      cases added
      refine .inr ⟨fun same => changes ?_, rfl⟩
      rw [← Context.narrowedTo, same]
      exact ⟨rfl, rfl⟩

theorem narrowTo_made (there : cs.made[c]? = some context) (narrowed : cs.narrowTo c sides = (n, next)) :
    next.states = cs.states ∧
      ∀ d other, next.made[d]? = some other ↔ cs.made[d]? = some other ∨ d = n ∧ context.narrowedTo sides = other := by
  rcases narrowTo_cases there sides with ⟨same, kept⟩ | ⟨-, added⟩
  · rw [narrowed, Prod.mk.injEq] at kept
    obtain ⟨rfl, rfl⟩ := kept
    refine ⟨rfl, fun d other => ⟨.inl, ?_⟩⟩
    rintro (before | ⟨rfl, rfl⟩)
    · exact before
    · rw [same, there]
  · rw [narrowed, Prod.mk.injEq] at added
    obtain ⟨rfl, rfl⟩ := added
    exact ⟨rfl, fun d other => at_snoc⟩

theorem create_made {session : Value} {k t : NameArg} {state : CustomState} (keyspace : k.resolve = .ok sides.keyspace)
    (table : t.resolve = .ok sides.table) (made : cs.create session k t state = .ok (n, next)) :
    n = cs.made.length ∧
      next = ⟨cs.made ++ [⟨session, sides.keyspace, sides.table, cs.states.length⟩], cs.states ++ [state]⟩ := by
  rw [create, keyspace, table] at made
  cases made
  exact ⟨rfl, rfl⟩

theorem stateOf_there (there : cs.made[c]? = some context) : cs.stateOf c = (cs.states[context.state]?).getD [] := by
  rw [stateOf, there, Option.bind_some]

theorem stateOf_narrowTo (source : cs.made[c]? = some context) (narrowed : cs.narrowTo c sides = (n, next))
    (there : cs.made[d]? = some other) : next.stateOf d = cs.stateOf d := by
  obtain ⟨states, made⟩ := narrowTo_made source narrowed
  rw [stateOf_there there, stateOf_there ((made d other).mpr (.inl there)), states]

theorem stateOf_create {session : Value} {k t : NameArg} {state : CustomState} (keyspace : k.resolve = .ok sides.keyspace)
    (table : t.resolve = .ok sides.table) (made : cs.create session k t state = .ok (n, next))
    (there : cs.made[d]? = some other) (within : other.state < cs.states.length) : next.stateOf d = cs.stateOf d := by
  obtain ⟨rfl, rfl⟩ := create_made keyspace table made
  rw [stateOf_there there, stateOf_there (at_snoc.mpr (.inl there)), List.getElem?_append_left within]

theorem stateOf_created {session : Value} {k t : NameArg} {state : CustomState} (keyspace : k.resolve = .ok sides.keyspace)
    (table : t.resolve = .ok sides.table) (made : cs.create session k t state = .ok (n, next)) : next.stateOf n = state := by
  obtain ⟨rfl, rfl⟩ := create_made keyspace table made
  rw [stateOf_there List.getElem?_concat_length, List.getElem?_concat_length, Option.getD_some]

theorem setState_made (cs : Contexts) (through : Nat) (key : String) (value : Value) :
    (cs.setState through key value).made = cs.made := by
  rw [setState]
  split <;> rfl

theorem stateOf_setState (wrote : cs.made[through]? = some context) (there : cs.made[c]? = some other)
    (within : other.state < cs.states.length) (key : String) (value : Value) :
    (cs.setState through key value).stateOf c =
      if other.state = context.state then (cs.stateOf c).set key value else cs.stateOf c := by
  have after : (cs.setState through key value).made[c]? = some other := by rw [setState_made, there]
  rw [stateOf_there after, stateOf_there there, setState, wrote, List.getElem?_modify, List.getElem?_eq_getElem within,
    Option.map_eq_map, Option.map_some, Option.getD_some, Option.getD_some]
  exact if_congr eq_comm rfl rfl

theorem get?_set (s : CustomState) (key other : String) (value : Value) :
    (s.set key value).get? other = if other = key then some value else s.get? other := by
  induction s with
  | nil =>
    by_cases same : other = key
    · simp [CustomState.set, CustomState.get?, same]
    · simp [CustomState.set, CustomState.get?, same, Ne.symm same]
  | cons entry rest ih =>
    obtain ⟨k, v⟩ := entry
    rw [CustomState.set]
    by_cases here : k = key
    · subst here
      by_cases same : other = k
      · simp [CustomState.get?, same]
      · simp [CustomState.get?, same, Ne.symm same]
    · by_cases asked : other = k
      · subst asked
        simp [CustomState.get?, here]
      · simp only [CustomState.get?] at ih
        simp [CustomState.get?, here, Ne.symm asked, ih]

end Steps

def Created (history : List Event) (r : Nat) : Prop := ∃ session sides state, .created r session sides state ∈ history

-- No two contexts that were created point to one state.
structure Seated (history : List Event) (cs : Contexts) : Prop where
  pointed : ∀ (c : Nat) (context : Context), cs.made[c]? = some context → context.state < cs.states.length
  created : ∀ r session sides state, .created r session sides state ∈ history →
    ∃ slot, cs.made[r]? = some ⟨session, sides.keyspace, sides.table, slot⟩
  apart : ∀ (r r' : Nat) (root root' : Context), Created history r → Created history r' → cs.made[r]? = some root →
    cs.made[r']? = some root' → root.state = root'.state → r = r'
  reached : ∀ r c path, Reached history r c path →
    ∃ root, cs.made[r]? = some root ∧ cs.made[c]? = some (root.narrowedTo (Sides.last path))
  covered : ∀ (c : Nat) (context : Context), cs.made[c]? = some context → ∃ r, Derived history r c
  written : ∀ through key value, .written through key value ∈ history → ∃ context, cs.made[through]? = some context

section Seats

variable {history : List Event} {cs next : Contexts} {context root : Context} {r c n : Nat} {path : List Sides} {e : Event}
  {sides : Sides}

theorem Reached.from_created (reached : Reached history r c path) : Created history r := by
  induction reached with
  | created => exact ⟨_, _, _, List.mem_append_right _ (List.mem_singleton_self _)⟩
  | narrowed _ ih | later _ _ ih =>
    obtain ⟨session, sides, state, among⟩ := ih
    exact ⟨session, sides, state, List.mem_append_left _ among⟩

theorem reached_snoc : Reached (history ++ [e]) r c path ↔
    Reached history r c path ∨ (∃ session sides state, e = .created c session sides state ∧ r = c ∧ path = []) ∨
      ∃ source sides before, e = .narrowed source c sides ∧ path = before ++ [sides] ∧ Reached history r source before := by
  constructor
  · intro reached
    generalize whole : history ++ [e] = all at reached
    cases reached with
    | created =>
      obtain ⟨rfl, same⟩ := List.append_inj' whole rfl
      exact .inr (.inl ⟨_, _, _, List.singleton_inj.mp same, rfl, rfl⟩)
    | narrowed source =>
      obtain ⟨rfl, same⟩ := List.append_inj' whole rfl
      exact .inr (.inr ⟨_, _, _, List.singleton_inj.mp same, rfl, source⟩)
    | later before =>
      obtain ⟨rfl, -⟩ := List.append_inj' whole rfl
      exact .inl before
  · rintro (before | ⟨_, _, _, rfl, rfl, rfl⟩ | ⟨_, _, _, rfl, rfl, source⟩)
    · exact .later before e
    · exact .created
    · exact .narrowed source

theorem Derived.later (derived : Derived history r c) (e : Event) : Derived (history ++ [e]) r c :=
  derived.imp fun _ reached => reached.later e

theorem Derived.created (derived : Derived history r c) : Created history r := derived.elim fun _ reached => reached.from_created

theorem reached_nil : ¬ Reached [] r c path := by
  intro reached
  obtain ⟨_, _, _, among⟩ := reached.from_created
  cases among

theorem created_snoc : Created (history ++ [e]) r ↔
    Created history r ∨ ∃ session sides state, e = .created r session sides state := by
  simp only [Created, List.mem_append, List.mem_singleton, exists_or, eq_comm]

theorem Seated.start : Seated [] .empty where
  pointed c context there := by cases there
  created r session sides state among := by cases among
  apart r r' root root' created := by
    obtain ⟨_, _, _, among⟩ := created
    cases among
  reached r c path reached := absurd reached reached_nil
  covered c context there := by cases there
  written through key value among := by cases among

theorem Seated.there (seated : Seated history cs) (created : Created history r) : ∃ root, cs.made[r]? = some root := by
  obtain ⟨_, _, _, among⟩ := created
  obtain ⟨slot, there⟩ := seated.created _ _ _ _ among
  exact ⟨_, there⟩

-- All contexts stay as they are, and a created one has a state that was not there.
structure Grows (e : Event) (cs next : Contexts) : Prop where
  kept : ∀ (c : Nat) (context : Context), cs.made[c]? = some context → next.made[c]? = some context
  pointed : ∀ (c : Nat) (context : Context), next.made[c]? = some context → context.state < next.states.length
  created : ∀ r session sides state, e = .created r session sides state →
    ∃ slot, cs.states.length ≤ slot ∧ next.made[r]? = some ⟨session, sides.keyspace, sides.table, slot⟩
  narrowed : ∀ source n sides, e = .narrowed source n sides →
    ∃ context, cs.made[source]? = some context ∧ next.made[n]? = some (context.narrowedTo sides)
  written : ∀ through key value, e = .written through key value → ∃ context, cs.made[through]? = some context
  covered : ∀ (c : Nat) (context : Context), next.made[c]? = some context → cs.made[c]? = some context ∨
    (∃ session sides state, e = .created c session sides state) ∨ ∃ source sides, e = .narrowed source c sides

theorem Seated.creator (seated : Seated history cs) (grows : Grows e cs next) (created : Created (history ++ [e]) r)
    (now : next.made[r]? = some root) :
    Created history r ∧ cs.made[r]? = some root ∧ root.state < cs.states.length ∨
      (∃ session sides state, e = .created r session sides state) ∧ cs.states.length ≤ root.state := by
  rcases created_snoc.mp created with old | ⟨session, sides, state, new⟩
  · obtain ⟨before, there⟩ := seated.there old
    rw [grows.kept r before there] at now
    cases now
    exact .inl ⟨old, there, seated.pointed r root there⟩
  · obtain ⟨slot, behind, there⟩ := grows.created r session sides state new
    rw [there] at now
    cases now
    exact .inr ⟨⟨session, sides, state, new⟩, behind⟩

theorem Seated.grow (seated : Seated history cs) (grows : Grows e cs next) : Seated (history ++ [e]) next := by
  constructor
  case pointed => exact grows.pointed
  case created =>
    intro r session sides state among
    rcases List.mem_append.mp among with old | new
    · exact (seated.created r session sides state old).imp fun _ => grows.kept r _
    · obtain ⟨slot, -, there⟩ := grows.created r session sides state (List.mem_singleton.mp new).symm
      exact ⟨slot, there⟩
  case apart =>
    intro r r' one other created created' at_r at_r' same
    -- New states lie above the old ones, so contexts with one state are both old or both new.
    rcases seated.creator grows created at_r with ⟨old, there, low⟩ | ⟨⟨_, _, _, new⟩, high⟩ <;>
      rcases seated.creator grows created' at_r' with ⟨old', there', low'⟩ | ⟨⟨_, _, _, new'⟩, high'⟩
    · exact seated.apart r r' one other old old' there there' same
    · omega
    · omega
    · rw [new] at new'
      cases new'
      rfl
  case reached =>
    intro r c path reached
    rcases reached_snoc.mp reached with old | ⟨session, sides, state, new, rfl, rfl⟩ | ⟨source, sides, way, new, rfl, before⟩
    · obtain ⟨root, at_r, at_c⟩ := seated.reached r c path old
      exact ⟨root, grows.kept r root at_r, grows.kept c _ at_c⟩
    · obtain ⟨slot, -, there⟩ := grows.created r session sides state new
      exact ⟨_, there, there⟩
    · obtain ⟨root, at_r, at_source⟩ := seated.reached r source way before
      obtain ⟨context, there, made⟩ := grows.narrowed source c sides new
      rw [there, Option.some.injEq] at at_source
      rw [at_source, Context.narrowedTo_over, ← Sides.last_snoc] at made
      exact ⟨root, grows.kept r root at_r, made⟩
  case covered =>
    intro c context now
    rcases grows.covered c context now with before | ⟨session, sides, state, rfl⟩ | ⟨source, sides, rfl⟩
    · exact (seated.covered c context before).imp fun r derived => derived.later e
    · exact ⟨c, [], .created⟩
    · obtain ⟨context, there, -⟩ := grows.narrowed source c sides rfl
      obtain ⟨r, path, reached⟩ := seated.covered source context there
      exact ⟨r, _, .narrowed reached⟩
  case written =>
    intro through key value among
    rcases List.mem_append.mp among with old | new
    · exact (seated.written through key value old).imp fun _ => grows.kept through _
    · obtain ⟨context, there⟩ := grows.written through key value (List.mem_singleton.mp new).symm
      exact ⟨context, grows.kept through context there⟩

theorem Seated.grows_narrow (seated : Seated history cs) (there : cs.made[source]? = some context)
    (narrowed : cs.narrowTo source sides = (n, next)) : Grows (.narrowed source n sides) cs next := by
  obtain ⟨states, made⟩ := narrowTo_made there narrowed
  constructor
  case kept => exact fun c other before => (made c other).mpr (.inl before)
  case pointed =>
    intro c other now
    rw [states]
    rcases (made c other).mp now with before | ⟨rfl, rfl⟩
    · exact seated.pointed c other before
    · exact seated.pointed source context there
  case narrowed =>
    intro source' n' sides' same
    cases same
    exact ⟨context, there, (made _ _).mpr (.inr ⟨rfl, rfl⟩)⟩
  case covered =>
    intro c other now
    rcases (made c other).mp now with before | ⟨rfl, -⟩
    · exact .inl before
    · exact .inr (.inr ⟨source, sides, rfl⟩)
  case created | written => simp

theorem Seated.grows_create (seated : Seated history cs) (keyspace : k.resolve = .ok sides.keyspace)
    (table : t.resolve = .ok sides.table) (made : cs.create session k t state = .ok (n, next)) :
    Grows (.created n session sides state) cs next := by
  obtain ⟨rfl, rfl⟩ := create_made keyspace table made
  constructor
  case kept => exact fun c other before => at_snoc.mpr (.inl before)
  case pointed =>
    intro c other now
    rw [List.length_append, List.length_singleton]
    rcases at_snoc.mp now with before | ⟨-, rfl⟩
    · exact Nat.lt_succ_of_lt (seated.pointed c other before)
    · exact Nat.lt_succ_self _
  case created =>
    intro r session' sides' state' same
    cases same
    exact ⟨_, Nat.le_refl _, List.getElem?_concat_length⟩
  case covered =>
    intro c other now
    rcases at_snoc.mp now with before | ⟨rfl, -⟩
    · exact .inl before
    · exact .inr (.inl ⟨session, sides, state, rfl⟩)
  case narrowed | written => simp

theorem Seated.grows_write (seated : Seated history cs) (there : cs.made[through]? = some context) (key : String) (value : Value) :
    Grows (.written through key value) cs (cs.setState through key value) := by
  have made : (cs.setState through key value).made = cs.made := setState_made cs through key value
  have states : (cs.setState through key value).states.length = cs.states.length := by
    rw [setState, there, List.length_modify]
  constructor
  case kept => exact fun c other before => by rw [made, before]
  case pointed =>
    rw [made, states]
    exact seated.pointed
  case written =>
    intro through' key' value' same
    cases same
    exact ⟨context, there⟩
  case covered =>
    rw [made]
    exact fun c other now => .inl now
  case created | narrowed => simp

theorem Run.seated (ran : Run history cs) : Seated history cs := by
  induction ran with
  | start => exact .start
  | create _ keyspace table made ih => exact ih.grow (ih.grows_create keyspace table made)
  | narrow _ there narrowed ih => exact ih.grow (ih.grows_narrow (List.getElem?_eq_getElem there) narrowed)
  | write _ there ih => exact ih.grow (ih.grows_write (List.getElem?_eq_getElem there) _ _)

theorem Seated.points (seated : Seated history cs) (derived : Derived history r c) :
    ∃ root context, cs.made[r]? = some root ∧ cs.made[c]? = some context ∧ context.state = root.state := by
  obtain ⟨path, reached⟩ := derived
  obtain ⟨root, at_r, at_c⟩ := seated.reached r c path reached
  exact ⟨root, _, at_r, at_c, rfl⟩

theorem Seated.points_iff (seated : Seated history cs) (created : Created history r) (at_r : cs.made[r]? = some root)
    (at_c : cs.made[c]? = some context) : Derived history r c ↔ context.state = root.state := by
  constructor
  · intro derived
    obtain ⟨root', context', at_r', at_c', same⟩ := seated.points derived
    rw [at_r] at at_r'
    rw [at_c] at at_c'
    cases at_r'
    cases at_c'
    exact same
  · intro same
    obtain ⟨r', derived⟩ := seated.covered c context at_c
    obtain ⟨root', context', at_r', at_c', same'⟩ := seated.points derived
    rw [at_c] at at_c'
    cases at_c'
    obtain rfl := seated.apart r r' root root' created derived.created at_r at_r' (same.symm.trans same')
    exact derived

theorem Seated.unique (seated : Seated history cs) (derived : Derived history r c) (other : Derived history r' c) : r = r' := by
  obtain ⟨root, context, at_r, at_c, same⟩ := seated.points derived
  obtain ⟨root', context', at_r', at_c', same'⟩ := seated.points other
  rw [at_c] at at_c'
  cases at_c'
  exact seated.apart r r' root root' derived.created other.created at_r at_r' (same.symm.trans same')

theorem Seated.derived_before (seated : Seated history cs) (later : Seated (history ++ [e]) next)
    (there : cs.made[c]? = some context) (derived : Derived (history ++ [e]) r c) : Derived history r c := by
  obtain ⟨r', before⟩ := seated.covered c context there
  exact later.unique derived (before.later e) ▸ before

theorem Seated.stateOf_root (seated : Seated history cs) (derived : Derived history r c) : cs.stateOf c = cs.stateOf r := by
  obtain ⟨root, context, at_r, at_c, same⟩ := seated.points derived
  rw [stateOf_there at_c, stateOf_there at_r, same]

theorem Seated.shown (seated : Seated history cs) (through : Derived history r w) (there : cs.made[c]? = some context)
    (key : String) (value : Value) :
    (Derived history r c → (cs.setState w key value).stateOf c = (cs.stateOf c).set key value) ∧
      (¬ Derived history r c → (cs.setState w key value).stateOf c = cs.stateOf c) := by
  obtain ⟨root, writer, at_r, at_w, same⟩ := seated.points through
  have shows := stateOf_setState at_w there (seated.pointed c context there) key value
  rw [seated.points_iff through.created at_r there, shows, same]
  exact ⟨fun kin => if_pos kin, fun other => if_neg other⟩

end Seats

section Reading

variable {history : List Event} {cs next : Contexts} {r : Nat} {key : String} {value : Value} {e : Event}
  {state : CustomState}

def Tells (history : List Event) (cs : Contexts) (r : Nat) (state : CustomState) (key : String) : Prop :=
  (∀ value, LastWritten history r key value → (cs.stateOf r).get? key = some value) ∧
    (Unwritten history r key → (cs.stateOf r).get? key = state.get? key)

theorem Seated.agree (seated : Seated history cs) (later : Seated (history ++ [e]) next)
    (among : .written through key value ∈ history) : Derived (history ++ [e]) r through ↔ Derived history r through := by
  obtain ⟨context, there⟩ := seated.written through key value among
  exact ⟨seated.derived_before later there, fun derived => derived.later e⟩

theorem Seated.lastWritten_before (seated : Seated history cs) (later : Seated (history ++ [e]) next)
    (written : LastWritten (history ++ [e]) r key value) :
    (∃ w, e = .written w key value ∧ Derived (history ++ [e]) r w) ∨
      LastWritten history r key value ∧ ∀ w x, e = .written w key x → ¬ Derived (history ++ [e]) r w := by
  obtain ⟨early, through, late, whole, kin, none_later⟩ := written
  rcases List.eq_nil_or_concat' late with rfl | ⟨before, last, rfl⟩
  · obtain ⟨-, same⟩ := List.append_inj' whole rfl
    exact .inl ⟨through, List.singleton_inj.mp same, kin⟩
  · rw [← List.cons_append, ← List.append_assoc] at whole
    obtain ⟨rfl, same⟩ := List.append_inj' whole rfl
    obtain rfl := List.singleton_inj.mp same
    refine .inr ⟨⟨early, through, before, rfl, ?_, ?_⟩, ?_⟩
    · exact (seated.agree later (List.mem_append_right _ List.mem_cons_self)).mp kin
    · intro other w among derived
      exact none_later other w (List.mem_append_left _ among) (derived.later _)
    · rintro w x rfl
      exact none_later w x (List.mem_append_right _ (List.mem_singleton_self _))

theorem Unwritten.before (unwritten : Unwritten (history ++ [e]) r key) :
    Unwritten history r key ∧ ∀ w x, e = .written w key x → ¬ Derived (history ++ [e]) r w := by
  constructor
  · intro through w among derived
    exact unwritten through w (List.mem_append_left _ among) (derived.later e)
  · rintro w x rfl
    exact unwritten w x (List.mem_append_right _ (List.mem_singleton_self _))

theorem Seated.tells (seated : Seated history cs) (later : Seated (history ++ [e]) next) (told : Tells history cs r state key)
    (step : (∃ w v, e = .written w key v ∧ Derived history r w ∧ (next.stateOf r).get? key = some v) ∨
      (next.stateOf r).get? key = (cs.stateOf r).get? key ∧ ∀ w v, e = .written w key v → ¬ Derived (history ++ [e]) r w) :
    Tells (history ++ [e]) next r state key := by
  constructor
  · intro value written
    rcases seated.lastWritten_before later written with ⟨w, rfl, kin⟩ | ⟨before, no_kin⟩
    · rcases step with ⟨w', v, same, -, reads⟩ | ⟨-, no_kin⟩
      · cases same
        exact reads
      · exact absurd kin (no_kin w value rfl)
    · rcases step with ⟨w, v, same, kin, -⟩ | ⟨stays, -⟩
      · exact absurd (kin.later e) (no_kin w v same)
      · rw [stays, told.1 value before]
  · intro unwritten
    obtain ⟨before, no_kin⟩ := unwritten.before
    rcases step with ⟨w, v, same, kin, -⟩ | ⟨stays, -⟩
    · exact absurd (kin.later e) (no_kin w v same)
    · rw [stays, told.2 before]

theorem Seated.unwritten (seated : Seated history cs) (later : Seated (history ++ [e]) next) (quiet : ∀ w k v, e ≠ .written w k v)
    (value : Value) : ¬ LastWritten (history ++ [e]) cs.made.length key value := by
  intro written
  rcases seated.lastWritten_before later written with ⟨w, same, _⟩ | ⟨⟨_, _, _, _, kin, _⟩, _⟩
  · exact quiet w key value same
  · obtain ⟨root, there⟩ := seated.there kin.created
    rw [List.getElem?_eq_none (Nat.le_refl _)] at there
    cases there

theorem Seated.heard (seated : Seated history cs) (there : cs.made[w]? = some context) (created : Created history r)
    (key k : String) (v : Value) :
    (k = key ∧ Derived history r w ∧ ((cs.setState w k v).stateOf r).get? key = some v) ∨
      ((cs.setState w k v).stateOf r).get? key = (cs.stateOf r).get? key ∧ (k = key → ¬ Derived history r w) := by
  obtain ⟨root, at_r⟩ := seated.there created
  obtain ⟨r', derived⟩ := seated.covered w context there
  by_cases kin : Derived history r w
  · have self : Derived history r r := (seated.points_iff created at_r at_r).mpr rfl
    rw [(seated.shown kin at_r k v).1 self, get?_set]
    by_cases same : key = k
    · exact .inl ⟨same.symm, kin, if_pos same⟩
    · exact .inr ⟨if_neg same, fun same' => absurd same'.symm same⟩
  · have apart : ¬ Derived history r' r := fun other => by
      have own : Derived history r r := (seated.points_iff created at_r at_r).mpr rfl
      exact kin (seated.unique own other ▸ derived)
    exact .inr ⟨by rw [(seated.shown derived at_r k v).2 apart], fun _ => kin⟩

theorem Run.tells (ran : Run history cs) (created : .created r session sides state ∈ history) (key : String) :
    Tells history cs r state key := by
  induction ran with
  | start => cases created
  | create before keyspace table made ih =>
    have later := (before.create keyspace table made).seated
    rcases List.mem_append.mp created with old | new
    · obtain ⟨root, at_r⟩ := before.seated.there ⟨_, _, _, old⟩
      have stays := stateOf_create keyspace table made at_r (before.seated.pointed r root at_r)
      exact before.seated.tells later (ih old) (.inr ⟨by rw [stays], by simp⟩)
    · cases List.mem_singleton.mp new
      have fresh := stateOf_created keyspace table made
      obtain ⟨rfl, -⟩ := create_made keyspace table made
      exact ⟨fun value written => absurd written (before.seated.unwritten later (by simp) value), fun _ => by rw [fresh]⟩
  | narrow before there narrowed ih =>
    have later := (before.narrow there narrowed).seated
    rcases List.mem_append.mp created with old | new
    · obtain ⟨root, at_r⟩ := before.seated.there ⟨_, _, _, old⟩
      have stays := stateOf_narrowTo (List.getElem?_eq_getElem there) narrowed at_r
      exact before.seated.tells later (ih old) (.inr ⟨by rw [stays], by simp⟩)
    · simp at new
  | @write history cs w k v before there ih =>
    have later : Seated _ (cs.setState w k v) := (before.write there).seated
    rcases List.mem_append.mp created with old | new
    · refine before.seated.tells later (ih old) ?_
      rcases before.seated.heard (List.getElem?_eq_getElem there) ⟨_, _, _, old⟩ key k v with
        ⟨rfl, kin, reads⟩ | ⟨stays, apart⟩
      · exact .inl ⟨w, v, rfl, kin, reads⟩
      · refine .inr ⟨stays, ?_⟩
        rintro _ _ ⟨rfl, rfl, rfl⟩ kin
        exact apart rfl (before.seated.derived_before later (List.getElem?_eq_getElem there) kin)
    · simp at new

end Reading

section Whole

variable {history : List Event} {cs : Contexts}

theorem narrowTo_twice (cs : Contexts) {c : Nat} {context : Context} (there : cs.made[c]? = some context)
    (first second : Sides) :
    let (middle, between) := cs.narrowTo c first
    let (last, after) := between.narrowTo middle second
    let (once, other) := cs.narrowTo c (second.over first)
    ∃ context, after.made[last]? = some context ∧ other.made[once]? = some context := by
  obtain ⟨-, made⟩ := narrowTo_made there (Prod.mk.eta.symm : cs.narrowTo c first = _)
  have middle := (made (cs.narrowTo c first).1 _).mpr (.inr ⟨rfl, rfl⟩)
  obtain ⟨-, after⟩ := narrowTo_made middle (Prod.mk.eta.symm : (cs.narrowTo c first).2.narrowTo _ second = _)
  obtain ⟨-, other⟩ := narrowTo_made there (Prod.mk.eta.symm : cs.narrowTo c (second.over first) = _)
  refine ⟨_, (after _ _).mpr (.inr ⟨rfl, rfl⟩), (other _ _).mpr (.inr ⟨rfl, ?_⟩)⟩
  rw [Context.narrowedTo_over]

theorem narrowTo_itself {c : Nat} {context : Context} (there : cs.made[c]? = some context) (sides : Sides) :
    ((cs.narrowTo c sides).1 = c ↔ context.narrowedTo sides = context) ∧
      ((cs.narrowTo c sides).1 = c ∨ (cs.narrowTo c sides).1 = cs.made.length) := by
  have below : c < cs.made.length := (List.getElem?_eq_some_iff.mp there).1
  rcases narrowTo_cases there sides with ⟨same, kept⟩ | ⟨differs, added⟩
  · rw [kept]
    exact ⟨iff_of_true rfl same, .inl rfl⟩
  · rw [added]
    exact ⟨iff_of_false (Nat.ne_of_gt below) differs, .inr rfl⟩

theorem narrowTo_unaltered {d : Nat} {context : Context} (there : cs.made[d]? = some context) (c : Nat) (sides : Sides) :
    (cs.narrowTo c sides).2.made[d]? = some context ∧ (cs.narrowTo c sides).2.stateOf d = cs.stateOf d := by
  cases source : cs.made[c]? with
  | none =>
    have nothing : cs.narrowTo c sides = (c, cs) := by rw [narrowTo, narrow, source]; rfl
    rw [nothing]
    exact ⟨there, rfl⟩
  | some narrowed =>
    obtain ⟨-, made⟩ := narrowTo_made source (Prod.mk.eta.symm : cs.narrowTo c sides = _)
    exact ⟨(made d context).mpr (.inl there), stateOf_narrowTo source rfl there⟩

theorem run_narrows (ran : Run history cs) : Narrows history cs := by
  have seated := ran.seated
  constructor
  case overrides =>
    intro r session sides state created c path reached
    obtain ⟨slot, at_r⟩ := seated.created r session sides state created
    obtain ⟨root, at_r', at_c⟩ := seated.reached r c path reached
    rw [at_r] at at_r'
    cases at_r'
    exact ⟨_, at_c, rfl, rfl, rfl⟩
  case origin =>
    intro c there
    obtain ⟨r, derived⟩ := seated.covered c _ (List.getElem?_eq_getElem there)
    exact ⟨r, derived, fun r' other => seated.unique other derived⟩
  case twice =>
    intro c first second there
    exact narrowTo_twice cs (List.getElem?_eq_getElem there) first second
  case itself =>
    intro c context sides there
    rw [← Context.narrowedTo_same_iff]
    exact narrowTo_itself there sides
  case unaltered =>
    intro c sides d context there
    exact narrowTo_unaltered there c sides
  case shown =>
    intro through key value r c derived there
    exact seated.shown derived (List.getElem?_eq_getElem there) key value
  case reads =>
    intro r session sides state created c key derived
    rw [seated.stateOf_root derived]
    exact ran.tells created key

end Whole

-- A context, one narrowed from it, one that is no narrower than that, and a write.
def branch : List Event := [
  .created 0 (.text "session") ⟨some ⟨"shop"⟩, none⟩ [("mode", .text "slow")], .narrowed 0 1 ⟨none, some ⟨"stock"⟩⟩,
  .narrowed 1 1 ⟨some ⟨"shop"⟩, none⟩, .written 1 "mode" (.text "fast")]

def branched : Contexts where
  made := [⟨.text "session", some ⟨"shop"⟩, none, 0⟩, ⟨.text "session", some ⟨"shop"⟩, some ⟨"stock"⟩, 0⟩]
  states := [[("mode", .text "fast")]]

theorem branch_run : Run branch branched := by
  have created : Run (branch.take 1) ⟨branched.made.take 1, [[("mode", .text "slow")]]⟩ :=
    .create (k := .known ⟨"shop"⟩) (t := .absent) .start rfl rfl rfl
  have narrowed : Run (branch.take 2) ⟨branched.made, [[("mode", .text "slow")]]⟩ := created.narrow (by decide) rfl
  have same : Run (branch.take 3) ⟨branched.made, [[("mode", .text "slow")]]⟩ := narrowed.narrow (by decide) rfl
  exact same.write (by decide)

theorem branch_narrows : Run branch branched ∧ Narrows branch branched ∧
    (branched.stateOf 0).get? "mode" = some (.text "fast") := by
  have narrows := run_narrows branch_run
  have created : Reached (branch.take 1) 0 0 [] := @Reached.created [] 0 _ _ _
  have written : LastWritten branch 0 "mode" (.text "fast") := by
    refine ⟨branch.take 3, 1, [], rfl, ⟨[⟨none, some ⟨"stock"⟩⟩], ?_⟩, by simp⟩
    exact .later (.later (.narrowed created) _) _
  have origin : Derived branch 0 0 := ⟨[], .later (.later (.later created _) _) _⟩
  exact ⟨branch_run, narrows, (narrows.reads 0 _ _ _ List.mem_cons_self 0 "mode" origin).1 _ written⟩

end Contexts

end DaoMapper
