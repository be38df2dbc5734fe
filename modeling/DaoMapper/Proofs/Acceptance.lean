import DaoMapper.Proofs.Skipping

-- Which factory methods are accepted, and which parameter is to blame for the others.
-- The rules speak of the declared parameters; the overrides that a check carries along
-- are no part of them.
namespace DaoMapper.Mapper

section rules

variable {p : Parameter} {before parameters : List Parameter}

-- The type of a second parameter of a role is not looked at.
inductive Breaks (before : List Parameter) (p : Parameter) : SkipCause → Prop where
  | noRole (bare : p.role = none) : Breaks before p .noRole
  | duplicateRole (given : p.role = some role) (taken : some role ∈ before.map (·.role)) :
      Breaks before p (.duplicateRole role)
  | wrongRoleType (given : p.role = some role) (free : some role ∉ before.map (·.role))
      (foreign : p.type ≠ .text ∧ p.type ≠ .identifier) : Breaks before p (.wrongRoleType role p.type)

def UnbrokenAfter (before parameters : List Parameter) : Prop :=
  ∀ front p back, parameters = front ++ p :: back → ∀ cause, ¬ Breaks (before ++ front) p cause

def FirstBreak (before parameters : List Parameter) (p : Parameter) (cause : SkipCause) : Prop :=
  ∃ front back, parameters = front ++ p :: back ∧ UnbrokenAfter before front ∧ Breaks (before ++ front) p cause

theorem unbrokenAfter_nil (before : List Parameter) : UnbrokenAfter before [] := by
  intro front p back split
  simp at split

theorem unbrokenAfter_cons : UnbrokenAfter before (p :: parameters) ↔
    (∀ cause, ¬ Breaks before p cause) ∧ UnbrokenAfter (before ++ [p]) parameters := by
  constructor
  · intro unbroken
    refine ⟨fun cause => by simpa using unbroken [] p parameters rfl cause, ?_⟩
    intro front q back split cause
    have later := unbroken (p :: front) q back (by simp [split]) cause
    rwa [List.append_cons] at later
  · rintro ⟨now, later⟩ front q back split cause
    cases front with
    | nil =>
      obtain ⟨rfl, rfl⟩ := List.cons.inj split
      simpa using now cause
    | cons head front =>
      obtain ⟨rfl, rfl⟩ := List.cons.inj split
      rw [List.append_cons]
      exact later front q back rfl cause

theorem firstBreak_cons {q : Parameter} : FirstBreak before (p :: parameters) q cause ↔
    (p = q ∧ Breaks before p cause) ∨
      ((∀ cause, ¬ Breaks before p cause) ∧ FirstBreak (before ++ [p]) parameters q cause) := by
  constructor
  · rintro ⟨front, back, split, unbroken, breaks⟩
    cases front with
    | nil =>
      obtain ⟨rfl, rfl⟩ := List.cons.inj split
      exact .inl ⟨rfl, by simpa using breaks⟩
    | cons head front =>
      obtain ⟨rfl, rfl⟩ := List.cons.inj split
      obtain ⟨now, later⟩ := unbrokenAfter_cons.mp unbroken
      rw [List.append_cons] at breaks
      exact .inr ⟨now, front, back, rfl, later, breaks⟩
  · rintro (⟨rfl, breaks⟩ | ⟨now, front, back, split, later, breaks⟩)
    · exact ⟨[], parameters, rfl, unbrokenAfter_nil before, by simpa using breaks⟩
    · refine ⟨p :: front, back, by simp [split], unbrokenAfter_cons.mpr ⟨now, later⟩, ?_⟩
      rwa [List.append_cons]

namespace Overrides

def Tracks (o : Overrides) (before : List Parameter) : Prop :=
  ∀ role, (o.get role).isSome ↔ some role ∈ before.map (·.role)

theorem tracks_none : Tracks ⟨none, none⟩ [] := by
  intro role
  simp

theorem tracks_set {o : Overrides} (tracks : o.Tracks before) (given : p.role = some role) :
    (o.set role p.name).Tracks (before ++ [p]) := by
  intro wanted
  by_cases same : wanted = role
  · simp [same, given]
  · rw [get_set_other _ _ same, tracks wanted]
    simp [given, same]

theorem add_tracks {o : Overrides} (tracks : o.Tracks before) (added : o.add p = .ok next) :
    next.Tracks (before ++ [p]) := by
  obtain ⟨role, given, _, _, rfl⟩ := add_ok added
  exact tracks_set tracks given

theorem add_error_iff {o : Overrides} (tracks : o.Tracks before) :
    o.add p = .error cause ↔ Breaks before p cause := by
  unfold add
  cases given : p.role with
  | none =>
    constructor
    · intro refused
      cases refused
      exact .noRole given
    · rintro (_ | ⟨has, _⟩ | ⟨has, _, _⟩)
      · rfl
      all_goals simp [given] at has
  | some role =>
    have known := tracks role
    constructor
    · intro refused
      dsimp only at refused
      split at refused
      · rename_i taken
        cases refused
        exact .duplicateRole given (known.mp taken)
      · rename_i free
        split at refused
        · rename_i foreign
          cases refused
          exact .wrongRoleType given (mt known.mpr free) (by simpa [roleTypes] using foreign)
        · cases refused
    · rintro (bare | ⟨has, taken⟩ | ⟨has, free, foreign⟩)
      · simp [given] at bare
      all_goals obtain rfl := Option.some.inj (given.symm.trans has)
      · simp [known.mpr taken]
      · simp [mt known.mp free, roleTypes, foreign]

theorem collect_error_iff {o : Overrides} (tracks : o.Tracks before) (s : Signature) (skip : Skip) :
    o.collect s parameters = .error skip ↔
      ∃ p cause, FirstBreak before parameters p cause ∧ skip = ⟨s.parameterLocation p, cause⟩ := by
  induction parameters generalizing o before with
  | nil =>
    constructor
    · intro refused
      cases refused
    · rintro ⟨p, cause, ⟨front, back, split, _⟩, _⟩
      simp at split
  | cons p rest ih =>
    unfold collect
    cases step : o.add p with
    | error cause =>
      -- This one is the first to break a rule, so no later one is.
      have breaks := (add_error_iff tracks).mp step
      simp only [firstBreak_cons]
      constructor
      · intro refused
        cases refused
        exact ⟨p, cause, .inl ⟨rfl, breaks⟩, rfl⟩
      · rintro ⟨q, other, ⟨rfl, again⟩ | ⟨none, _⟩, rfl⟩
        · obtain rfl : cause = other := Except.error.inj (step.symm.trans ((add_error_iff tracks).mpr again))
          rfl
        · exact absurd breaks (none cause)
    | ok next =>
      have unbroken : ∀ cause, ¬ Breaks before p cause := by
        intro cause breaks
        simp [(add_error_iff tracks).mpr breaks] at step
      simp only [firstBreak_cons, ih (add_tracks tracks step)]
      constructor
      · rintro ⟨q, cause, later, located⟩
        exact ⟨q, cause, .inr ⟨unbroken, later⟩, located⟩
      · rintro ⟨q, cause, ⟨_, breaks⟩ | ⟨_, later⟩, located⟩
        · exact absurd breaks (unbroken cause)
        · exact ⟨q, cause, later, located⟩

end Overrides

theorem unbroken_or_first (before parameters : List Parameter) :
    UnbrokenAfter before parameters ∨ ∃ p cause, FirstBreak before parameters p cause := by
  induction parameters generalizing before with
  | nil => exact .inl (unbrokenAfter_nil before)
  | cons p rest ih =>
    by_cases breaks : ∃ cause, Breaks before p cause
    · obtain ⟨cause, breaks⟩ := breaks
      exact .inr ⟨p, cause, firstBreak_cons.mpr (.inl ⟨rfl, breaks⟩)⟩
    · have now := not_exists.mp breaks
      rcases ih (before ++ [p]) with later | ⟨q, cause, later⟩
      · exact .inl (unbrokenAfter_cons.mpr ⟨now, later⟩)
      · exact .inr ⟨q, cause, firstBreak_cons.mpr (.inr ⟨now, later⟩)⟩

theorem FirstBreak.broken (first : FirstBreak before parameters p cause) : ¬ UnbrokenAfter before parameters := by
  obtain ⟨front, back, split, _, breaks⟩ := first
  exact fun unbroken => unbroken front p back split cause breaks

section overrides

variable {s : Signature}

theorem overrides_error_iff : s.overrides = .error skip ↔
    ∃ p cause, FirstBreak [] s.parameters p cause ∧ skip = ⟨s.parameterLocation p, cause⟩ :=
  Overrides.collect_error_iff Overrides.tracks_none s skip

theorem overrides_ok_iff : (∃ o, s.overrides = .ok o) ↔ UnbrokenAfter [] s.parameters := by
  constructor
  · rintro ⟨o, accepted⟩
    rcases unbroken_or_first [] s.parameters with unbroken | ⟨p, cause, first⟩
    · exact unbroken
    · simp [overrides_error_iff.mpr ⟨p, cause, first, rfl⟩] at accepted
  · intro unbroken
    cases checked : s.overrides with
    | ok o => exact ⟨o, rfl⟩
    | error skip =>
      obtain ⟨p, cause, first, _⟩ := overrides_error_iff.mp checked
      exact absurd unbroken first.broken

end overrides

theorem unbroken_iff : UnbrokenAfter [] parameters ↔
    (∀ p ∈ parameters, p.role ≠ none) ∧ (∀ p ∈ parameters, p.type = .text ∨ p.type = .identifier) ∧
      (parameters.map (·.role)).Nodup := by
  constructor
  · intro unbroken
    obtain ⟨o, accepted⟩ := (overrides_ok_iff (s := ⟨"", "", parameters, .text, false⟩)).mpr unbroken
    have collected := Overrides.overrides_ok accepted
    refine ⟨?_, fun p member => by simpa [roleTypes] using collected.types p member, collected.distinct⟩
    intro p member bare
    obtain ⟨role, given, _⟩ := collected.roles p member
    simp [bare] at given
  · rintro ⟨roles, types, distinct⟩ front p back rfl cause breaks
    have member : p ∈ front ++ p :: back := by simp
    rcases breaks with bare | ⟨given, taken⟩ | ⟨_, _, foreign⟩
    · exact roles p member bare
    · simp only [List.map_append, List.map_cons, List.nodup_append] at distinct
      exact distinct.2.2 _ (by simpa using taken) p.role (by simp) given.symm
    · rcases types p member with text | identifier
      · exact foreign.1 text
      · exact foreign.2 identifier

end rules

def FactoryMethod.Hidden (m : FactoryMethod) (name : String) : Prop :=
  name = "DaoCacheKey" ∨ name = m.implementation.importName

theorem FactoryMethod.hidden_iff (m : FactoryMethod) (name : String) :
    (bodyNames m).contains name = true ↔ m.Hidden name := by
  simp [bodyNames, Hidden, cacheKeyName]

structure Acceptable (m : FactoryMethod) : Prop where
  roles : ∀ p ∈ m.signature.parameters, p.role ≠ none
  types : ∀ p ∈ m.signature.parameters, p.type = .text ∨ p.type = .identifier
  distinct : (m.signature.parameters.map (·.role)).Nodup
  names : ∀ p ∈ m.signature.parameters, ¬ m.Hidden p.name

-- The first to break a rule; where there is none, the first that hides a name of the body.
inductive Blame (m : FactoryMethod) : Skip → Prop where
  | rule (first : FirstBreak [] m.signature.parameters p cause) : Blame m ⟨m.signature.parameterLocation p, cause⟩
  | name (unbroken : UnbrokenAfter [] m.signature.parameters) (split : m.signature.parameters = front ++ p :: back)
      (clear : ∀ q ∈ front, ¬ m.Hidden q.name) (hidden : m.Hidden p.name) :
      Blame m ⟨m.signature.parameterLocation p, .hidesName p.name⟩

section plan

variable {m : FactoryMethod} {o : Overrides}

-- A method without parameters hides no name, so its mode need not be looked at.
theorem plan_checked (checked : m.signature.overrides = .ok o) : m.plan =
    match m.signature.parameters.find? fun p => (bodyNames m).contains p.name with
    | some p => .error ⟨m.signature.parameterLocation p, .hidesName p.name⟩
    | none => .ok ⟨m, o⟩ := by
  unfold FactoryMethod.plan
  simp only [checked, bind, Except.bind]
  cases mode : o.mode with
  | keyed => rfl
  | simple =>
    rw [(Overrides.mode_of_parameters checked).mp mode]
    rfl

theorem plan_error_iff : m.plan = .error s ↔ Blame m s := by
  cases checked : m.signature.overrides with
  | error skip =>
    have refused : m.plan = .error skip := by simp [FactoryMethod.plan, checked, bind, Except.bind]
    obtain ⟨p, cause, first, rfl⟩ := overrides_error_iff.mp checked
    rw [refused]
    constructor
    · rintro ⟨⟩
      exact .rule first
    · rintro (other | ⟨unbroken, _, _, _⟩)
      · have again := overrides_error_iff.mpr ⟨_, _, other, rfl⟩
        exact congrArg _ (Except.error.inj (checked.symm.trans again))
      · exact absurd unbroken first.broken
  | ok o =>
    have unbroken := overrides_ok_iff.mp ⟨o, checked⟩
    rw [plan_checked checked]
    constructor
    · intro refused
      split at refused
      · rename_i p found
        cases refused
        obtain ⟨hidden, front, back, split, clear⟩ := List.find?_eq_some_iff_append.mp found
        refine .name unbroken split ?_ ((m.hidden_iff p.name).mp hidden)
        intro q member
        rw [← m.hidden_iff]
        simpa using clear q member
      · cases refused
    · intro blamed
      cases blamed with
      | rule first => exact absurd unbroken first.broken
      | @name front p back _ split clear hidden =>
        have found : m.signature.parameters.find? (fun p => (bodyNames m).contains p.name) = some p := by
          refine List.find?_eq_some_iff_append.mpr ⟨(m.hidden_iff p.name).mpr hidden, front, back, split, ?_⟩
          intro q member
          simpa using mt (m.hidden_iff q.name).mp (clear q member)
        rw [found]

theorem plan_ok_iff : (∃ p, m.plan = .ok p) ↔ Acceptable m := by
  constructor
  · rintro ⟨p, planned⟩
    have checked := (plan_ok planned).2.1
    obtain ⟨roles, types, distinct⟩ := unbroken_iff.mp (overrides_ok_iff.mp ⟨_, checked⟩)
    refine ⟨roles, types, distinct, ?_⟩
    intro q member hidden
    rw [plan_checked checked] at planned
    split at planned
    · cases planned
    · rename_i unhidden
      exact List.find?_eq_none.mp unhidden q member ((m.hidden_iff q.name).mpr hidden)
  · rintro ⟨roles, types, distinct, names⟩
    cases planned : m.plan with
    | ok p => exact ⟨p, rfl⟩
    | error s =>
      have unbroken := unbroken_iff.mpr ⟨roles, types, distinct⟩
      rcases plan_error_iff.mp planned with first | ⟨_, split, _, hidden⟩
      · exact absurd unbroken first.broken
      · exact absurd hidden (names _ (by simp [split]))

end plan

structure Recorded (m : FactoryMethod) (p : Plan) : Prop where
  method : p.method = m
  overrides : ∀ role name, p.overrides.get role = some name ↔
    ∃ q ∈ m.signature.parameters, q.role = some role ∧ q.name = name
  mode : p.mode = .keyed ↔ m.signature.parameters ≠ []

theorem plan_recorded {m : FactoryMethod} (planned : m.plan = .ok p) : Recorded m p := by
  obtain ⟨method, checked, _⟩ := plan_ok planned
  refine ⟨method, ?_, ?_⟩
  · intro role name
    constructor
    · intro named
      rw [Overrides.overrides_get checked] at named
      obtain ⟨q, found, rfl⟩ := Option.map_eq_some_iff.mp named
      have given : q.role = some role := by simpa using List.find?_some found
      exact ⟨q, List.mem_of_find?_eq_some found, given, rfl⟩
    · rintro ⟨q, member, given, rfl⟩
      obtain ⟨other, has, named⟩ := Overrides.overrides_name checked member
      obtain rfl : role = other := Option.some.inj (given.symm.trans has)
      exact named
  · rw [ne_eq, ← Overrides.mode_of_parameters checked, Plan.mode]
    cases p.overrides.mode <;> simp

-- A method is accepted exactly when it is acceptable, and then in silence; for another one
-- the blamed parameter is reported once, as it is raised. Fields are not touched.
theorem construct_exact (m : FactoryMethod) (fs : Fields) (r : Report) :
    ∃ result report, m.construct fs r = (result, fs, report) ∧
      ((∃ p, result = .ok p) ↔ Acceptable m) ∧
      (∀ p, result = .ok p → Recorded m p ∧ report = r) ∧
      (∀ s, result = .error s ↔ Blame m s) ∧
      ∀ s, result = .error s →
        report.diagnostics = r.diagnostics ++ [⟨true, s.location, s.cause.message⟩] ∧
        s.problem = .skip s.cause.kind (.text s.location) (.text s.cause.message) := by
  cases planned : m.plan with
  | ok p =>
    refine ⟨.ok p, r, by simp [FactoryMethod.construct, planned], ?_, ?_, ?_, ?_⟩
    · simp [← plan_ok_iff, planned]
    · rintro _ ⟨⟩
      exact ⟨plan_recorded planned, rfl⟩
    · simp [← plan_error_iff, planned]
    · rintro s ⟨⟩
  | error s =>
    refine ⟨.error s, r.error s.location s.cause.message, by simp [FactoryMethod.construct, planned], ?_, ?_, ?_, ?_⟩
    · simp [← plan_ok_iff, planned]
    · rintro _ ⟨⟩
    · simp [← plan_error_iff, planned]
    · rintro _ ⟨⟩
      exact ⟨rfl, rfl⟩

end DaoMapper.Mapper
