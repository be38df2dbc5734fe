import DaoMapper.Log.Loguru
import DaoMapper.Proofs.Layers

-- Which sinks there are after any calls for settings, while somebody else comes and goes
-- with sinks of his own: those of the settings, those of the other, and what a call that
-- failed has left.
namespace DaoMapper

theorem Number.Binary64.isZero_whole {x : Number.Binary64} (whole : x.toInt? = some n) :
    x.isZero = true ↔ n = 0 := by
  cases x with
  | undefined => cases whole
  | infinite negative => cases whole
  | finite negative m q =>
    have zero : (Number.Binary64.finite negative m q).isZero = true ↔ m = 0 := by
      cases m <;> simp [isZero]
    have positive (k : Nat) : 0 < twoTo k := Nat.pow_pos (by decide)
    have sized : ∃ size : Nat, (size = 0 ↔ m = 0) ∧ (n = size ∨ n = -(size : Int)) := by
      by_cases scaled : 0 ≤ q
      · simp only [toInt?, scaled, if_true] at whole
        refine ⟨m * twoTo q.toNat, ?_, by cases negative <;> simp_all⟩
        have := positive q.toNat
        rw [Nat.mul_eq_zero]
        omega
      · by_cases divides : m % twoTo (-q).toNat = 0
        · simp only [toInt?, scaled, divides, if_true, if_false] at whole
          refine ⟨m / twoTo (-q).toNat, ?_, by cases negative <;> simp_all⟩
          rw [Nat.div_eq_zero_iff_lt (positive _)]
          exact ⟨fun less => Nat.mod_eq_of_lt less ▸ divides, fun none => none ▸ positive _⟩
        · simp [toInt?, scaled, divides] at whole
    obtain ⟨size, none, amount⟩ := sized
    rw [zero]
    omega

namespace Value

section Sameness

variable {a b c : Value}

-- Values that are the same are one value, equal by amount, or hold the same values.
theorem same_whole (first : a.whole? = some n) (second : b.whole? = some n) : a.same b = true := by
  cases a <;> cases b <;> simp_all [same, whole?]

theorem given_whole (whole : a.whole? = some n) : a.given = decide (n ≠ 0) := by
  cases a with
  | bool b => cases b <;> cases whole <;> rfl
  | int m => cases whole; rfl
  | float x =>
    have zero := Number.Binary64.isZero_whole whole
    cases amount : x.isZero <;> simp_all [given]
  | _ => cases whole

inductive Alike : Value → Value → Prop where
  | equal (v : Value) : Alike v v
  | whole (first : v.whole? = some n) (second : w.whole? = some n) : Alike v w
  | list (together : sameAll xs ys = true) : Alike (.list xs) (.list ys)
  | tuple (together : sameAll xs ys = true) : Alike (.tuple xs) (.tuple ys)
  | set (together : sameAll xs ys = true) : Alike (.set xs) (.set ys)
  | map (long : xs.length = ys.length) (together : sameEntries xs ys = true) : Alike (.map xs) (.map ys)

theorem same_alike (equal : a.same b = true) : Alike a b := by
  cases a with
  | null => cases b <;> first | exact .equal _ | simp [same, whole?, floatBits] at equal
  | text _ | bytes _ | date _ | clock _ => cases b <;> simp [same, whole?, floatBits] at equal; exact equal ▸ .equal _
  | moment _ _ => cases b <;> simp [same, whole?, floatBits] at equal; exact equal.1 ▸ equal.2 ▸ .equal _
  | list xs => cases b <;> simp [same, whole?, floatBits] at equal; exact .list equal
  | tuple xs => cases b <;> simp [same, whole?, floatBits] at equal; exact .tuple equal
  | set xs => cases b <;> simp [same, whole?, floatBits] at equal; exact .set equal
  | map xs => cases b <;> simp [same, whole?, floatBits] at equal; exact .map equal.1 equal.2
  | bool _ | int _ | float _ =>
    cases b <;> simp only [same] at equal
    all_goals
      split at equal
      · next first second => exact .whole first (second.trans (congrArg some (beq_iff_eq.mp equal).symm))
      · simp [floatBits] at equal
        try exact equal.1 ▸ .equal _

theorem same_given (equal : a.same b = true) : a.given = b.given := by
  cases same_alike equal with
  | equal => rfl
  | whole first second => rw [given_whole first, given_whole second]
  | @list xs ys together | @tuple xs ys together | @set xs ys together =>
    cases xs <;> cases ys <;> simp_all [sameAll, given]
  | @map xs ys long => cases xs <;> cases ys <;> simp_all [given]

theorem same_amount (equal : a.same b = true) : a.whole? = b.whole? := by
  cases same_alike equal with
  | whole first second => rw [first, second]
  | _ => rfl

theorem sameEntries_counterpart (equal : sameEntries xs ys = true) (e : Value × Value) (member : e ∈ xs) :
    ∃ f ∈ ys, e.1.same f.1 = true ∧ e.2.same f.2 = true := by
  induction xs with
  | nil => cases member
  | cons first rest ih =>
    simp only [sameEntries, Bool.and_eq_true, List.any_eq_true] at equal
    rcases List.mem_cons.mp member with rfl | later
    · exact equal.1
    · exact ih equal.2 later

mutual

theorem same_trans {a b c : Value} (first : a.same b = true) (second : b.same c = true) : a.same c = true := by
  cases same_alike first with
  | equal => exact second
  | whole here there => exact same_whole here ((same_amount second).symm.trans there)
  | @list xs ys together =>
    cases same_alike second with
    | equal => exact first
    | whole here there => cases here
    | list further => exact sameAll_trans together further
  | @tuple xs ys together =>
    cases same_alike second with
    | equal => exact first
    | whole here there => cases here
    | tuple further => exact sameAll_trans together further
  | @set xs ys together =>
    cases same_alike second with
    | equal => exact first
    | whole here there => cases here
    | set further => exact sameAll_trans together further
  | @map xs ys long together =>
    cases same_alike second with
    | equal => exact first
    | whole here there => cases here
    | @map _ zs longer further =>
      simp only [same, Bool.and_eq_true, beq_iff_eq]
      exact ⟨long.trans longer, sameEntries_trans together further⟩

theorem sameAll_trans {xs ys zs : List Value} (first : sameAll xs ys = true) (second : sameAll ys zs = true) :
    sameAll xs zs = true := by
  cases xs <;> cases ys <;> cases zs <;> simp_all [sameAll]
  exact ⟨same_trans first.1 second.1, sameAll_trans first.2 second.2⟩

theorem sameEntries_trans {xs ys zs : List (Value × Value)} (first : sameEntries xs ys = true)
    (second : sameEntries ys zs = true) : sameEntries xs zs = true := by
  match xs with
  | [] => rfl
  | (k, v) :: rest =>
    simp only [sameEntries, Bool.and_eq_true, List.any_eq_true] at first ⊢
    obtain ⟨⟨e, among, key, value⟩, others⟩ := first
    obtain ⟨f, there, further, worth⟩ := sameEntries_counterpart second e among
    exact ⟨⟨f, there, same_trans key further, same_trans value worth⟩, sameEntries_trans others second⟩

end

end Sameness

end Value

namespace Log

open Files (Path Tree)
open Settings (Environment)

def rank? : Value → Option Nat
  | .text name => (Severity.ofName? name).map Severity.rank
  | v => v.whole?.bind fun n => if n < 0 then none else some n.toNat

def Sink.aim (k : Sink) : Target × Nat := (k.target, k.least)

def installed (all : List Sink) : List Sink := all.filter (·.target ≠ .foreign)

def hosted (all : List Sink) : List Sink := all.filter fun k => k.target = .foreign ∧ k.number ≠ 0

-- What is relied on of the library: a sink that is added comes behind the others at the rank
-- of its level, under a number that none of them has and that is not the one of the first
-- sink ever; one that is refused is not there; and a sink that is removed is gone.
structure Library.Lawful [Library] : Prop where
  added : ∀ {s : Library.State} {tree t level n next after}, Library.add s tree t level = (.ok n, next, after) →
    ∃ least, rank? level = some least ∧ Library.sinks next = Library.sinks s ++ [⟨n, t, least⟩]
  fresh : ∀ {s : Library.State} {tree t level n next after}, Library.add s tree t level = (.ok n, next, after) →
    n ≠ 0 ∧ ∀ k ∈ Library.sinks s, k.number ≠ n
  refused : ∀ {s : Library.State} {tree t level kind next after},
    Library.add s tree t level = (.error kind, next, after) → Library.sinks next = Library.sinks s
  removed : ∀ (s : Library.State) (n : Nat),
    Library.sinks (Library.remove s n) = (Library.sinks s).filter (·.number ≠ n)

def fileTargets : Value → List Target
  | .text name => [.file (Path.ofText name)]
  | _ => []

def Request.targets (r : Request) : List Target := r.terminal :: fileTargets r.setup.outputFile

section Histories

variable [Library]

namespace Sinks

-- What was put in here is what is asked for: its targets, each at the level.
def Fits (s : Sinks) (r : Request) : Prop :=
  ∃ least, rank? r.setup.level = some least ∧ (installed s.all).map Sink.aim = r.targets.map (·, least)

def Left (s : Sinks) (r : Request) : SinkFault → Prop
  | .terminal _ => installed s.all = []
  | _ => ∃ least, rank? r.setup.level = some least ∧ (installed s.all).map Sink.aim = [(r.terminal, least)]

inductive Replaces (s : Sinks) (r : Request) : Except SinkFault Unit → Sinks → Prop where
  | done {next : Sinks} (active : next.active = some r.setup) (fits : next.Fits r) : Replaces s r (.ok ()) next
  | stopped {next : Sinks} (active : next.active = s.active) (left : next.Left r f) : Replaces s r (.error f) next

end Sinks

inductive Action where
  | kept (r : Request)
  | replaced (r : Request)
  | failed (r : Request) (f : SinkFault)
  | added (k : Sink)
  | refused
  | removed (number : Nat)

-- A call changes nothing if it asks for the settings in force and does not insist.
def Action.ofCall (s : Sinks) (r : Request) : Except SinkFault Unit → Action
  | .error f => .failed r f
  | .ok () => if s.active.any r.setup.same && !r.force then .kept r else .replaced r

-- Somebody else does not touch what was put in here.
inductive Move : Sinks → Action → Sinks → Prop where
  | call (asked : Request.ofFields? arguments = some r) (called : s.configure tree r = (result, next, after)) :
      Move s (.ofCall s r result) next
  | added (called : Library.add s.library tree .foreign level = (.ok number, library, after))
      (ranked : rank? level = some least) : Move s (.added ⟨number, .foreign, least⟩) { s with library }
  | refused (called : Library.add s.library tree .foreign level = (.error kind, library, after)) :
      Move s .refused { s with library }
  | removed (foreign : number ∉ s.own) : Move s (.removed number) (s.remove number)

inductive Run (start : Library.State) : List Action → Sinks → Prop where
  | start : Run start [] ⟨start, [], none⟩
  | step (ran : Run start history s) (move : Move s e next) : Run start (e :: history) next

end Histories

namespace History

def standing? : List Action → Option Request
  | [] => none
  | .replaced r :: _ => some r
  | _ :: earlier => standing? earlier

def attempt? : List Action → Option (Request × Option SinkFault)
  | [] => none
  | .replaced r :: _ => some (r, none)
  | .failed r f :: _ => some (r, some f)
  | _ :: earlier => attempt? earlier

def passed? : List Action → Option Request
  | [] => none
  | .kept r :: _ | .replaced r :: _ => some r
  | _ :: earlier => passed? earlier

-- The sinks of somebody else that he has not removed, with those that he had at the start.
def hosts (first : List Sink) : List Action → List Sink
  | [] => first
  | .added k :: earlier => hosts first earlier ++ [k]
  | .removed number :: earlier => (hosts first earlier).filter (·.number ≠ number)
  | _ :: earlier => hosts first earlier

-- What is left by a call that failed is what the next one asks for: the first has come as
-- far as the terminal, and the second wants that and no more.
def Spared (failed : Request) (f : SinkFault) (r : Request) : Prop :=
  (∀ kind, f ≠ .terminal kind) ∧ r.targets = [failed.terminal] ∧ rank? r.setup.level = rank? failed.setup.level

-- The settings in force are asked for, and no force, after another call has failed.
def Outdated (history : List Action) (r : Request) : Prop :=
  r.force = false ∧ ∃ standing failed f, standing? history = some standing ∧
    r.setup.same standing.setup = true ∧ attempt? history = some (failed, some f) ∧ ¬Spared failed f r

end History

section Settings

variable {r t : Request}

theorem rank?_level (ranked : Level.ofValue v = .ok l) : rank? v = some l.rank := by
  have numbered (n : Int) (level : Level.ofNumber n = .ok l) :
      (if n < 0 then none else some n.toNat) = some l.rank := by
    unfold Level.ofNumber at level
    split at level
    · cases level
    · next positive => cases level; rw [if_neg positive]
  cases v with
  | text name =>
    cases known : Severity.ofName? name with
    | none => simp [Level.ofValue, known] at ranked
    | some s =>
      simp only [Level.ofValue, known, Option.elim_some, Except.ok.injEq] at ranked
      simp [rank?, known, ← ranked, Level.ofSeverity]
  | int n => exact numbered n ranked
  | bool b => exact numbered _ ranked
  | _ => cases ranked

theorem rank?_same (equal : v.same w = true) : rank? v = rank? w := by
  have amount := Value.same_amount equal
  cases Value.same_alike equal with
  | equal => rfl
  | whole first second => cases v <;> cases w <;> simp_all [rank?, Value.whole?]
  | _ => rfl

theorem form_same (equal : v.same w = true) : Form.ofValue v = Form.ofValue w := by
  have plain (u : Value) {n : Int} (whole : u.whole? = some n) : Form.ofValue u = .console := by
    cases u <;> first | rfl | cases whole
  cases Value.same_alike equal with
  | equal => rfl
  | whole first second => rw [plain v first, plain w second]
  | _ => rfl

theorem Request.terminal_same (equal : r.setup.same t.setup = true) : r.terminal = t.terminal := by
  simp only [Setup.same, Setup.values, Value.sameAll, Bool.and_eq_true] at equal
  rw [terminal, form_same equal.2.1, Value.same_given equal.2.2.2.2.1, terminal]

theorem Request.rank_same (equal : r.setup.same t.setup = true) : rank? r.setup.level = rank? t.setup.level := by
  simp only [Setup.same, Setup.values, Value.sameAll, Bool.and_eq_true] at equal
  exact rank?_same equal.1

theorem fileTargets_same (equal : v.same w = true) : fileTargets v = fileTargets w := by
  have none (u : Value) {n : Int} (whole : u.whole? = some n) : fileTargets u = [] := by
    cases u <;> first | rfl | cases whole
  cases Value.same_alike equal with
  | equal => rfl
  | whole first second => rw [none v first, none w second]
  | _ => rfl

theorem Request.targets_same (equal : r.setup.same t.setup = true) : r.targets = t.targets := by
  have terminal := terminal_same equal
  simp only [Setup.same, Setup.values, Value.sameAll, Bool.and_eq_true] at equal
  rw [targets, terminal, fileTargets_same equal.2.2.1, targets]

end Settings

section Arguments

theorem Request.ofFields?_file (asked : ofFields? arguments = some r) :
    r.setup.outputFile = if r.outputFile.given then .text r.outputFile.plain else .null := by
  unfold ofFields? at asked
  split at asked
  · cases asked
  · cases asked
    rfl

theorem Request.targets_alone (asked : ofFields? arguments = some r) (absent : r.outputFile.given = false) :
    r.targets = [r.terminal] := by
  rw [targets, ofFields?_file asked, absent]
  rfl

theorem Request.targets_file (asked : ofFields? arguments = some r) (given : r.outputFile.given = true)
    (words : r.outputFile = .text name) : r.targets = [r.terminal, .file (Path.ofText name)] := by
  rw [targets, ofFields?_file asked, if_pos given, words]
  rfl

end Arguments

theorem installed_append (all more : List Sink) : installed (all ++ more) = installed all ++ installed more :=
  List.filter_append _ _

theorem hosted_append (all more : List Sink) : hosted (all ++ more) = hosted all ++ hosted more :=
  List.filter_append _ _

theorem hosted_filter (all : List Sink) (number : Nat) :
    hosted (all.filter (·.number ≠ number)) = (hosted all).filter (·.number ≠ number) := by
  simp only [hosted, List.filter_filter]
  exact List.filter_congr fun k _ => Bool.and_comm _ _

section Moves

variable [Library] {s next : Sinks} {r t : Request}

theorem Sinks.Fits.same (fits : s.Fits t) (equal : r.setup.same t.setup = true) : s.Fits r := by
  obtain ⟨least, ranked, aims⟩ := fits
  exact ⟨least, (Request.rank_same equal).trans ranked, Request.targets_same equal ▸ aims⟩

namespace Sinks

-- The sinks that were put in here are the ones under the numbers that were kept.
structure Sound (s : Sinks) : Prop where
  owned : ∀ k ∈ s.all, k.target ≠ .foreign ↔ k.number ∈ s.own
  known : ∀ n ∈ s.own, n ≠ 0 ∧ ∃ k ∈ s.all, k.number = n

section

variable (laws : Library.Lawful) (sound : s.Sound)

include laws

theorem remove_all (s : Sinks) (number : Nat) : (s.remove number).all = s.all.filter (·.number ≠ number) :=
  laws.removed s.library number

theorem removeAll_sinks (library : Library.State) (numbers : List Nat) :
    Library.sinks (numbers.foldl Library.remove library) =
      (Library.sinks library).filter fun k => !numbers.contains k.number := by
  induction numbers generalizing library with
  | nil => simp
  | cons n rest ih =>
    rw [List.foldl_cons, ih, laws.removed, List.filter_filter]
    apply List.filter_congr
    intro k _
    by_cases same : k.number = n <;> simp [same]

theorem removeOwn_all (s : Sinks) : s.removeOwn.all = s.all.filter fun k => !s.own.contains k.number :=
  removeAll_sinks laws s.library s.own

include sound

theorem Sound.remove (foreign : number ∉ s.own) : (s.remove number).Sound where
  owned k there := sound.owned k (List.mem_filter.mp (remove_all laws s number ▸ there)).1
  known n own := by
    obtain ⟨positive, k, there, rfl⟩ := sound.known n own
    have other : k.number ≠ number := by
      intro same
      rw [same] at own
      exact foreign own
    refine ⟨positive, k, ?_, rfl⟩
    rw [remove_all laws]
    exact List.mem_filter.mpr ⟨there, by simpa using other⟩

theorem Sound.installed_remove (foreign : number ∉ s.own) : installed (s.remove number).all = installed s.all := by
  rw [remove_all laws, installed, List.filter_filter]
  apply List.filter_congr
  intro k there
  by_cases own : k.target = .foreign
  · simp [own]
  · have other : k.number ≠ number := fun same => foreign (same ▸ (sound.owned k there).mp own)
    simp [own, other]

theorem Sound.removeOwn : s.removeOwn.Sound where
  owned k there := by
    have left := List.mem_filter.mp (removeOwn_all laws s ▸ there)
    simp only [Bool.not_eq_true', List.contains_eq_mem, decide_eq_false_iff_not] at left
    simp [sound.owned k left.1, left.2, Sinks.removeOwn]
  known n own := by cases own

theorem Sound.installed_removeOwn : installed s.removeOwn.all = [] := by
  apply List.filter_eq_nil_iff.mpr
  intro k there
  have none : k.number ∉ s.removeOwn.own := List.not_mem_nil
  simpa using fun own => none (((sound.removeOwn laws).owned k there).mp own)

theorem Sound.hosted_removeOwn : hosted s.removeOwn.all = hosted s.all := by
  rw [removeOwn_all laws, hosted, List.filter_filter]
  apply List.filter_congr
  intro k there
  by_cases foreign : k.target = .foreign
  · have other : k.number ∉ s.own := fun own => (sound.owned k there).mpr own foreign
    simp [foreign, other]
  · simp [foreign]

theorem Sound.withoutInitial : s.withoutInitial.Sound := by
  unfold Sinks.withoutInitial
  split
  · exact sound.remove laws fun own => (sound.known 0 own).1 rfl
  · exact sound

omit sound

theorem hosted_withoutInitial (s : Sinks) : hosted s.withoutInitial.all = hosted s.all := by
  unfold Sinks.withoutInitial
  split
  · rw [remove_all laws, hosted_filter]
    apply List.filter_eq_self.mpr
    intro k there
    have other := (List.mem_filter.mp there).2
    simp only [Bool.decide_and, Bool.and_eq_true, decide_eq_true_eq] at other
    simpa using other.2
  · rfl

omit laws in
theorem active_withoutInitial (s : Sinks) : s.withoutInitial.active = s.active := by
  unfold Sinks.withoutInitial
  split <;> rfl

section added

variable {library : Library.State} {target : Target}
  (called : Library.add s.library tree target level = (.ok n, library, after))

include called

theorem Sound.snoc (sound : s.Sound) (own : List Nat) (mine : own = if target = .foreign then s.own else n :: s.own)
    (active : Option Setup) : Sound ⟨library, own, active⟩ := by
  obtain ⟨least, _, placed⟩ := laws.added called
  obtain ⟨positive, fresh⟩ := laws.fresh called
  have all : (⟨library, own, active⟩ : Sinks).all = s.all ++ [⟨n, target, least⟩] := placed
  have unused : n ∉ s.own := by
    intro used
    obtain ⟨_, k, there, same⟩ := sound.known n used
    exact fresh k there same
  constructor
  · intro k there
    rw [all] at there
    rcases List.mem_append.mp there with old | new
    · have other := fresh k old
      have before := sound.owned k old
      split at mine <;> simp [mine, before, other]
    · obtain rfl := List.mem_singleton.mp new
      by_cases foreign : target = .foreign <;> simp [mine, foreign, unused]
  · intro m member
    rw [all]
    have old : m ∈ s.own → m ≠ 0 ∧ ∃ k ∈ s.all ++ [⟨n, target, least⟩], k.number = m := by
      intro before
      obtain ⟨positive, k, there, same⟩ := sound.known m before
      exact ⟨positive, k, List.mem_append_left _ there, same⟩
    split at mine
    · exact old (mine ▸ member)
    · rcases List.mem_cons.mp (mine ▸ member) with rfl | before
      · exact ⟨positive, _, List.mem_append_right _ (List.mem_singleton_self _), rfl⟩
      · exact old before

end added

-- It stands behind the others that were put in here, or they are what they were.
inductive Puts (s : Sinks) (target : Target) (level : Value) : Except SinkFault Unit → Sinks → Prop where
  | put {next : Sinks} (ranked : rank? level = some least)
      (aims : (installed next.all).map Sink.aim = (installed s.all).map Sink.aim ++ [(target, least)]) :
      Puts s target level (.ok ()) next
  | failed {next : Sinks} (same : installed next.all = installed s.all) : Puts s target level (.error f) next

structure Leaves (s next : Sinks) : Prop where
  sound : next.Sound
  hosts : hosted next.all = hosted s.all
  active : next.active = s.active

omit laws in
theorem Leaves.refl (sound : s.Sound) : Leaves s s := ⟨sound, rfl, rfl⟩

omit laws in
theorem Leaves.trans {middle : Sinks} (first : Leaves s middle) (second : Leaves middle next) : Leaves s next :=
  ⟨second.sound, second.hosts.trans first.hosts, second.active.trans first.active⟩

theorem Sound.add (sound : s.Sound) (own : target ≠ .foreign)
    (step : s.add tree target level blame = (result, next, after)) :
    Leaves s next ∧ Puts s target level result next ∧ ∀ f, result = .error f → ∃ kind, f = blame kind := by
  unfold Sinks.add at step
  split at step
  · rename_i kind library tree' called
    cases step
    have same : (⟨library, s.own, s.active⟩ : Sinks).all = s.all := laws.refused called
    have sound' : Sound ⟨library, s.own, s.active⟩ := by
      constructor
      · intro k there
        exact sound.owned k (same ▸ there)
      · rw [same]
        exact sound.known
    exact ⟨⟨sound', by rw [same], rfl⟩, .failed (by rw [same]), fun f failed => ⟨kind, (Except.error.inj failed).symm⟩⟩
  · rename_i n library tree' called
    cases step
    obtain ⟨least, ranked, placed⟩ := laws.added called
    have all : (⟨library, n :: s.own, s.active⟩ : Sinks).all = s.all ++ [⟨n, target, least⟩] := placed
    refine ⟨⟨sound.snoc laws called _ (if_neg own).symm _, ?_, rfl⟩, .put ranked ?_, nofun⟩
    · rw [all, hosted_append]
      simp [hosted, own]
    · rw [all, installed_append, List.map_append]
      simp [installed, own, Sink.aim]

theorem Sound.addFile (sound : s.Sound) (asked : Request.ofFields? arguments = some r)
    (given : r.outputFile.given = true) (step : s.addFile tree r = (result, next, after)) :
    ∃ target, Leaves s next ∧ Puts s target r.setup.level result next ∧
      (result = .ok () → r.targets = [r.terminal, target]) ∧ ∀ f, result = .error f → ∀ kind, f ≠ .terminal kind := by
  unfold Sinks.addFile at step
  split at step
  · rename_i name words
    refine ⟨.file (Path.ofText name), ?_⟩
    have targets := Request.targets_file asked given words
    dsimp only at step
    split at step
    · cases step
      exact ⟨.refl sound, .failed rfl, fun _ => targets, fun f failed => by cases failed; simp⟩
    · obtain ⟨leaves, puts, blamed⟩ := sound.add laws (by simp) step
      refine ⟨leaves, puts, fun _ => targets, fun f failed => ?_⟩
      obtain ⟨kind, rfl⟩ := blamed f failed
      simp
  · cases step
    exact ⟨.foreign, .refl sound, .failed rfl, nofun, fun f failed => by cases failed; simp⟩

theorem Sound.filed (sound : s.Sound) (asked : Request.ofFields? arguments = some r) (given : r.outputFile.given = true)
    (ranked : rank? r.setup.level = some least) (shown : (installed s.all).map Sink.aim = [(r.terminal, least)])
    (step : s.addFile tree r = (result, next, after)) :
    Leaves s next ∧ (result = .ok () → next.Fits r) ∧ ∀ f, result = .error f → next.Left r f := by
  obtain ⟨target, leaves, puts, targets, other⟩ := sound.addFile laws asked given step
  cases puts with
  | @put least' _ ranked' aims =>
    obtain rfl : least = least' := Option.some.inj (ranked.symm.trans ranked')
    refine ⟨leaves, fun _ => ⟨least, ranked, ?_⟩, nofun⟩
    rw [targets rfl, aims, shown]
    rfl
  | @failed f _ same =>
    refine ⟨leaves, nofun, fun _ failed => ?_⟩
    cases failed
    have left : ∃ least, rank? r.setup.level = some least ∧
        (installed next.all).map Sink.aim = [(r.terminal, least)] := ⟨least, ranked, same ▸ shown⟩
    cases f with
    | terminal kind => exact absurd rfl (other _ rfl kind)
    | path | directory _ | file _ => exact left

theorem Sound.cleared (sound : s.Sound) : Leaves s s.withoutInitial.removeOwn where
  sound := (sound.withoutInitial laws).removeOwn laws
  hosts := ((sound.withoutInitial laws).hosted_removeOwn laws).trans (hosted_withoutInitial laws s)
  active := active_withoutInitial s

theorem Sound.replaces (sound : s.Sound) (asked : Request.ofFields? arguments = some r)
    (step : s.replace tree r = (result, next, after)) :
    next.Sound ∧ hosted next.all = hosted s.all ∧ s.Replaces r result next := by
  have none := (sound.withoutInitial laws).installed_removeOwn laws
  have cleared := sound.cleared laws
  unfold Sinks.replace at step
  cases opened : s.withoutInitial.removeOwn.add tree r.terminal r.setup.level .terminal with
  | mk shown rest =>
    obtain ⟨middle, tree'⟩ := rest
    obtain ⟨leaves, puts, blamed⟩ := cleared.sound.add laws (by simp [Request.terminal]) opened
    have first := cleared.trans leaves
    rw [opened] at step
    cases puts with
    | failed same =>
      obtain ⟨kind, rfl⟩ := blamed _ rfl
      cases step
      exact ⟨first.sound, first.hosts, .stopped first.active (same.trans none)⟩
    | @put least _ ranked aims =>
      rw [none, List.map_nil, List.nil_append] at aims
      dsimp only at step
      cases given : r.outputFile.given with
      | false =>
        simp only [given, Bool.false_eq_true, if_false] at step
        cases step
        refine ⟨⟨first.sound.owned, first.sound.known⟩, first.hosts, .done rfl ⟨least, ranked, ?_⟩⟩
        rw [Request.targets_alone asked given]
        exact aims
      | true =>
        simp only [given, if_true] at step
        cases filed : middle.addFile tree' r with
        | mk outcome rest =>
          obtain ⟨last, tree''⟩ := rest
          obtain ⟨leaves', fits, left⟩ := first.sound.filed laws asked given ranked aims filed
          have both := first.trans leaves'
          rw [filed] at step
          cases outcome with
          | ok =>
            cases step
            exact ⟨⟨both.sound.owned, both.sound.known⟩, both.hosts, .done rfl (fits rfl)⟩
          | error f =>
            cases step
            exact ⟨both.sound, both.hosts, .stopped both.active (left f rfl)⟩

end

end Sinks

end Moves

section Tellings

variable [Library]

inductive Sinks.Remains (s : Sinks) : Option Request → Option (Request × Option SinkFault) → Prop where
  | none (empty : installed s.all = []) : Remains s none none
  | fits (fits : s.Fits r) : Remains s (some r) (some (r, none))
  | left (left : s.Left r f) : Remains s standing (some (r, some f))

structure Told (start : Library.State) (history : List Action) (s : Sinks) : Prop where
  sound : s.Sound
  hosts : hosted s.all = History.hosts (hosted (Library.sinks start)) history
  active : s.active = (History.standing? history).map (·.setup)
  remains : s.Remains (History.standing? history) (History.attempt? history)
  passed : ∀ last, History.passed? history = some last → ∃ standing, History.standing? history = some standing ∧
    (last = standing ∨ last.setup.same standing.setup = true)

end Tellings

section Runs

variable [Library] {s next : Sinks} {r : Request} {history : List Action} {start : Library.State}

theorem Sinks.Remains.unchanged (remains : s.Remains standing attempt) (same : installed next.all = installed s.all) :
    next.Remains standing attempt := by
  cases remains with
  | none empty => exact .none (same.trans empty)
  | fits fits => exact .fits (by rwa [Sinks.Fits, same])
  | @left _ f _ left =>
    refine .left ?_
    cases f <;> simpa only [Sinks.Left, same] using left

theorem told_start (foreign : ∀ k ∈ Library.sinks start, k.target = .foreign) : Told start [] ⟨start, [], none⟩ where
  sound := ⟨fun k there => by simp [foreign k there], by simp⟩
  hosts := rfl
  active := rfl
  remains := .none (List.filter_eq_nil_iff.mpr fun k there => by simp [foreign k there])
  passed := fun _ none => by cases none

theorem hosts_ofCall (first : List Sink) (s : Sinks) (r : Request) (result : Except SinkFault Unit)
    (history : List Action) : History.hosts first (.ofCall s r result :: history) = History.hosts first history := by
  unfold Action.ofCall
  split
  · rfl
  · split <;> rfl

theorem Told.active_iff (told : Told start history s) :
    s.active.any r.setup.same = true ↔ ∃ t, History.standing? history = some t ∧ r.setup.same t.setup = true := by
  rw [told.active]
  cases History.standing? history <;> simp

theorem Told.other (told : Told start history s) {library : Library.State}
    (sound : Sinks.Sound ⟨library, s.own, s.active⟩) (same : installed (Library.sinks library) = installed s.all)
    (hosts : hosted (Library.sinks library) = History.hosts (hosted (Library.sinks start)) (a :: history))
    (standing : History.standing? (a :: history) = History.standing? history)
    (attempt : History.attempt? (a :: history) = History.attempt? history)
    (passed : History.passed? (a :: history) = History.passed? history) :
    Told start (a :: history) { s with library } where
  sound := sound
  hosts := hosts
  active := standing ▸ told.active
  remains := by
    rw [standing, attempt]
    exact told.remains.unchanged same
  passed := by
    rw [standing, passed]
    exact told.passed

variable (laws : Library.Lawful)

include laws

theorem Told.call (told : Told start history s) (asked : Request.ofFields? arguments = some r)
    (called : s.configure tree r = (result, next, after)) : Told start (.ofCall s r result :: history) next := by
  unfold Sinks.configure at called
  split at called
  · next settled =>
    cases called
    simp only [Action.ofCall, settled, if_true]
    refine ⟨told.sound, told.hosts, told.active, told.remains, ?_⟩
    intro last same
    cases same
    obtain ⟨t, standing, equal⟩ := told.active_iff.mp (Bool.and_eq_true_iff.mp settled).1
    exact ⟨t, standing, .inr equal⟩
  · next unsettled =>
    obtain ⟨sound, hosts, replaces⟩ := told.sound.replaces laws asked called
    cases replaces with
    | done active fits =>
      simp only [Action.ofCall, unsettled, Bool.false_eq_true, if_false]
      refine ⟨sound, hosts.trans told.hosts, active, .fits fits, ?_⟩
      intro last same
      cases same
      exact ⟨r, rfl, .inl rfl⟩
    | stopped active left => exact ⟨sound, hosts.trans told.hosts, active.trans told.active, .left left, told.passed⟩

theorem Move.told (move : Move s a next) (told : Told start history s) : Told start (a :: history) next := by
  cases move with
  | call asked called => exact told.call laws asked called
  | added called ranked =>
    obtain ⟨_, ranked', placed⟩ := laws.added called
    obtain rfl := Option.some.inj (ranked.symm.trans ranked')
    obtain ⟨positive, _⟩ := laws.fresh called
    refine told.other (told.sound.snoc laws called _ rfl _) ?_ ?_ rfl rfl rfl
    · rw [placed, installed_append]
      simp [installed, Sinks.all]
    · rw [placed, hosted_append, History.hosts, ← told.hosts]
      simp [hosted, Sinks.all, positive]
  | refused called =>
    have same := laws.refused called
    refine told.other ⟨?_, ?_⟩ ?_ ?_ rfl rfl rfl
    · rw [Sinks.all, same]
      exact told.sound.owned
    · rw [Sinks.all, same]
      exact told.sound.known
    · rw [same]
      rfl
    · rw [same]
      exact told.hosts
  | removed foreign =>
    refine told.other (told.sound.remove laws foreign) (told.sound.installed_remove laws foreign) ?_ rfl rfl rfl
    rw [laws.removed, hosted_filter, History.hosts, ← told.hosts]
    rfl

theorem Run.told (foreign : ∀ k ∈ Library.sinks start, k.target = .foreign) (ran : Run start history s) :
    Told start history s := by
  induction ran with
  | start => exact told_start foreign
  | step _ move ih => exact move.told laws ih

omit laws

theorem Sinks.fits_terminal (aims : (installed s.all).map Sink.aim = [(target, least)]) :
    s.Fits r ↔ r.targets = [target] ∧ rank? r.setup.level = some least := by
  constructor
  · intro fits
    obtain ⟨amount, ranked, fits⟩ := fits
    have one : r.targets.map (·, amount) = [target].map (·, least) := fits.symm.trans aims
    have targets := congrArg (List.map Prod.fst) one
    simp only [List.map_map, Function.comp_def, List.map_id'] at targets
    rw [targets, List.map_singleton, List.map_singleton, List.singleton_inj] at one
    cases one
    exact ⟨targets, ranked⟩
  · intro both
    obtain ⟨targets, ranked⟩ := both
    refine ⟨least, ranked, ?_⟩
    rw [targets, aims]
    rfl

theorem Sinks.Left.fits_iff (left : s.Left failed f) : s.Fits r ↔ History.Spared failed f r := by
  cases f with
  | terminal kind =>
    have none : installed s.all = [] := left
    constructor
    · intro fits
      obtain ⟨_, _, aims⟩ := fits
      rw [none] at aims
      cases aims
    · exact fun spared => absurd rfl (spared.1 kind)
  | path | directory _ | file _ =>
    obtain ⟨least, ranked, aims⟩ := left
    rw [Sinks.fits_terminal aims, History.Spared, ranked]
    simp

structure Configured (start : Library.State) (history : List Action) (s : Sinks) (tree : Tree) (r : Request)
    (result : Except SinkFault Unit) (next : Sinks) (after : Tree) : Prop where
  fitted : result = .ok () → (next.Fits r ↔ ¬History.Outdated history r)
  hosts : hosted next.all = History.hosts (hosted (Library.sinks start)) history
  repeated : r.force = false → ∀ last, History.passed? history = some last → r.setup.same last.setup = true →
    result = .ok () ∧ next = s ∧ after = tree

theorem Told.fitted_kept (told : Told start history s) (settled : (s.active.any r.setup.same && !r.force) = true) :
    s.Fits r ↔ ¬History.Outdated history r := by
  obtain ⟨held, free⟩ := Bool.and_eq_true_iff.mp settled
  obtain ⟨t, standing, equal⟩ := told.active_iff.mp held
  have remains := told.remains
  rw [standing] at remains
  generalize attempt : History.attempt? history = last at remains
  cases remains with
  -- no call has failed since the settings came in force
  | fits fits =>
    refine iff_of_true (fits.same equal) ?_
    intro outdated
    obtain ⟨_, _, _, _, _, _, failed, _⟩ := outdated
    rw [attempt] at failed
    cases failed
  -- one has, and what it left is all there is
  | @left failed f _ left =>
    rw [left.fits_iff]
    constructor
    · intro spared outdated
      obtain ⟨_, _, failed', f', _, _, there, lost⟩ := outdated
      rw [attempt] at there
      cases there
      exact lost spared
    · intro current
      by_contra lost
      exact current ⟨by simpa using free, t, failed, f, standing, equal, attempt, lost⟩

theorem Told.fitted_replaced (told : Told start history s)
    (unsettled : ¬(s.active.any r.setup.same && !r.force) = true) : ¬History.Outdated history r := by
  intro outdated
  obtain ⟨free, t, _, _, standing, equal, _⟩ := outdated
  exact unsettled (Bool.and_eq_true_iff.mpr ⟨told.active_iff.mpr ⟨t, standing, equal⟩, by simp [free]⟩)

theorem Told.repeated (told : Told start history s) (last : History.passed? history = some t)
    (equal : r.setup.same t.setup = true) : s.active.any r.setup.same = true := by
  obtain ⟨standing, there, same⟩ := told.passed t last
  refine told.active_iff.mpr ⟨standing, there, ?_⟩
  rcases same with rfl | same
  · exact equal
  · exact Value.sameAll_trans equal same

-- Any use of the library by others and any calls for settings, from a start where all sinks
-- are those of others.
theorem run_configure (laws : Library.Lawful) (foreign : ∀ k ∈ Library.sinks start, k.target = .foreign)
    (ran : Run start history s) (asked : Request.ofFields? arguments = some r)
    (called : s.configure tree r = (result, next, after)) :
    Configured start history s tree r result next after := by
  have told := ran.told laws foreign
  refine ⟨fun passed => ?_, ?_, fun free last there equal => ?_⟩
  · unfold Sinks.configure at called
    split at called
    · next settled =>
      cases called
      exact told.fitted_kept settled
    · next unsettled =>
      obtain ⟨_, _, replaces⟩ := told.sound.replaces laws asked called
      cases replaces with
      | done _ fits => exact iff_of_true fits (told.fitted_replaced unsettled)
      | stopped => cases passed
  · exact (told.call laws asked called).hosts.trans (hosts_ofCall _ s r result history)
  · have settled := told.repeated there equal
    rw [Sinks.configure, settled, free] at called
    cases called
    exact ⟨rfl, rfl, rfl⟩

end Runs

namespace Loguru

theorem add_ok {s next : State} (added : add s tree t level = (.ok n, next, after)) :
    ∃ l place, Level.ofValue level = .ok l ∧ n = s.next ∧ next = s.put t l.rank place := by
  unfold add at added
  dsimp only at added
  split at added
  · cases added
  · cases added
  · rename_i place l _ known
    cases added
    exact ⟨l, place, known, rfl, rfl⟩

theorem add_error {s next : State} (refused : add s tree t level = (.error kind, next, after)) :
    next.handlers = s.handlers := by
  unfold add at refused
  dsimp only at refused
  split at refused
  · cases refused
    rfl
  · cases refused
    rfl
  · cases refused

theorem lawful : Library.Lawful where
  added := by
    intro s tree t level n next after added
    obtain ⟨l, place, known, rfl, rfl⟩ := add_ok added
    refine ⟨l.rank, rank?_level known, ?_⟩
    simp [Library.sinks, State.put]
  fresh := by
    intro s tree t level n next after added
    obtain ⟨_, _, _, rfl, _⟩ := add_ok added
    refine ⟨Nat.ne_of_gt s.started, ?_⟩
    intro k there
    obtain ⟨h, among, rfl⟩ := List.mem_map.mp there
    exact Nat.ne_of_lt (s.below h among)
  refused := by
    intro s tree t level kind next after refused
    exact congrArg (List.map (·.sink)) (add_error refused)
  removed := by
    intro s n
    simp [Library.sinks, Library.remove, State.remove, List.filter_map, Function.comp_def]

def fresh : State := .initial "" ""

theorem fresh_foreign : ∀ k ∈ Library.sinks fresh, k.target = .foreign := by
  intro k there
  rw [List.mem_singleton.mp there]

theorem requestOf_asked (level format : String) :
    Request.ofFields? [("level", .text level), ("format", .text format)] = some (requestOf level format) := rfl

theorem moves (s : Sinks) (tree : Tree) (level format : String) :
    Move s (.ofCall s (requestOf level format) (s.configure tree (requestOf level format)).1)
      (s.configure tree (requestOf level format)).2.1 :=
  .call (requestOf_asked level format) rfl

-- A host has its own sink, and other settings are asked for: the sinks are replaced.
theorem host_configure : ∃ s next,
    ∃ (_ : Run fresh [.added ⟨2, .foreign, 30⟩, .replaced (requestOf "INFO" "console")] s)
    (_ : Request.ofFields? [("level", .text "ERROR"), ("format", .text "json")] = some (requestOf "ERROR" "json"))
    (_ : s.configure .empty (requestOf "ERROR" "json") = (.ok (), next, .empty)),
    hosted next.all = [⟨2, .foreign, 30⟩] ∧
      Configured fresh [.added ⟨2, .foreign, 30⟩, .replaced (requestOf "INFO" "console")] s .empty
        (requestOf "ERROR" "json") (.ok ()) next .empty := by
  have first := Run.step .start (moves ⟨fresh, [], none⟩ .empty "INFO" "console")
  have added : Library.add (Sinks.configure ⟨fresh, [], none⟩ .empty (requestOf "INFO" "console")).2.1.library .empty
      .foreign (.text "WARNING") = (.ok 2, _, .empty) := rfl
  have ran := Run.step first (.added added rfl)
  exact ⟨_, _, ran, requestOf_asked "ERROR" "json", rfl, rfl,
    run_configure lawful fresh_foreign ran (requestOf_asked "ERROR" "json") rfl⟩

-- After an unknown level the settings in force are asked for again: there is no sink.
theorem info_unfitted : ∃ s next,
    Run fresh [.failed (requestOf "LOUD" "console") (.terminal "ValueError"), .replaced (requestOf "INFO" "console")] s ∧
    s.configure .empty (requestOf "INFO" "console") = (.ok (), next, .empty) ∧ installed next.all = [] ∧
      ¬next.Fits (requestOf "INFO" "console") := by
  have first := Run.step .start (moves ⟨fresh, [], none⟩ .empty "INFO" "console")
  have second := Run.step first (moves _ .empty "LOUD" "console")
  refine ⟨_, _, second, rfl, rfl, ?_⟩
  intro fits
  obtain ⟨_, _, aims⟩ := fits
  cases aims

end Loguru

end Log

end DaoMapper
