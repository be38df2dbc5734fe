import DaoMapper.Proofs.Layers
import Mathlib

-- Settings that are kept: between two clears a file gives what it gave the first time,
-- whatever becomes of it and of the environment.
namespace DaoMapper.Settings.Store

open Files (Path Tree)

-- Variables and files may change in any way from one visit to the next.
structure Visit where
  env : Environment
  tree : Tree
  asked : Path

namespace Visit

def place (v : Visit) : Path := v.asked.absolute v.tree.current

def there (v : Visit) : Bool := v.tree.has v.asked

def reading [Yaml.Library] (v : Visit) : Except LoadFault Config := (readConfig v.env v.tree v.place).2

end Visit

def visit [Yaml.Library] (s : Store) (v : Visit) : Except LoadFault Made × Store := (s.load v.env v.tree (some v.asked)).2

inductive Event where
  | loaded (v : Visit) (result : Except LoadFault Made)
  | cleared

namespace Event

def clears : Event → Bool
  | cleared => true
  | loaded .. => false

def given? : Event → Option (String × Made)
  | loaded v result => result.toOption.map fun m => (v.place.text, m)
  | cleared => none

end Event

inductive Run [Yaml.Library] : List Event → Store → Prop where
  | start : Run [] .empty
  | load (before : Run history s) (v : Visit) (visited : s.visit v = (result, next)) :
      Run (history ++ [.loaded v result]) next
  | clear (before : Run history s) : Run (history ++ [.cleared]) s.clear

def sinceClear (history : List Event) : List Event := history.rtakeWhile fun e => !e.clears

def given (history : List Event) : List (String × Made) := (sinceClear history).filterMap Event.given?

def first? (history : List Event) (place : String) : Option Made :=
  ((given history).find? fun g => g.1 == place).map (·.2)

-- Loads that fail take no room.
def Roomy (history : List Event) : Prop := ((given history).map (·.1)).toFinset.card ≤ capacity

structure Serves [Yaml.Library] (history : List Event) (s : Store) : Prop where
  -- A file that is there gives what its first load since the last clear gave.
  first : ∀ v m, v.there = true → first? history v.place.text = some m → (s.visit v).1 = .ok m
  -- That was made from what the file and the variables were then.
  source : ∀ place m, first? history place = some m → ∃ early v late, history = early ++ .loaded v (.ok m) :: late ∧
    (∀ e ∈ late, e.clears = false) ∧ first? early place = none ∧ v.place.text = place ∧ v.there = true ∧
      v.reading = .ok m.config
  -- Without such a load this is the first one, and goes by what they are now.
  fresh : ∀ v, v.there = true → first? history v.place.text = none → (s.visit v).1.map (·.config) = v.reading
  missing : ∀ v, v.there = false → (s.visit v).1 = .error (.absent v.asked)
  failed : ∀ v fault, (s.visit v).1 = .error fault → (s.visit v).2 = s
  -- A file is the same by its path from the root, and by any path that leads to that.
  spelled : ∀ v w : Visit, w.asked = v.place → w.place = v.place
  shared : ∀ v w m, (s.visit v).1 = .ok m → w.place.text = v.place.text → w.there = true →
    ((s.visit v).2.visit w).1 = .ok m

inductive Visited [Yaml.Library] (s : Store) (v : Visit) : Except LoadFault Made → Store → Prop where
  | missing (absent : v.there = false) : Visited s v (.error (.absent v.asked)) s
  | kept (there : v.there = true) (held : s.get? v.place.text = some m) : Visited s v (.ok m) (s.keep v.place.text m)
  | failed (there : v.there = true) (unheld : s.get? v.place.text = none) (read : v.reading = .error fault) :
      Visited s v (.error fault) s
  | read (there : v.there = true) (unheld : s.get? v.place.text = none) (read : v.reading = .ok c) :
      Visited s v (.ok (s.make c).1) ((s.make c).2.keep v.place.text (s.make c).1)

section Visits

variable [Yaml.Library] {history : List Event} {s next : Store} {v w : Visit} {m : Made} {e : Event} {place other : String}
  {result : Except LoadFault Made}

theorem visit_missing (absent : v.there = false) : s.visit v = (.error (.absent v.asked), s) := by
  rw [Visit.there] at absent
  simp only [visit, load, loadFile, locate, absent, Bool.false_eq_true, if_false, Option.isNone_some, Bool.and_false]

-- What was asked for is not passed over for the usual settings, so a load is what is fetched.
theorem visit_fetch (there : v.there = true) : s.visit v = (s.fetch v.env v.tree v.place).2 := by
  rw [Visit.there] at there
  simp only [visit, load, loadFile, locate, there, if_true, Visit.place]
  split
  · rename_i failed
    rw [Prod.mk.injEq] at failed
    rw [Option.isNone_some, Bool.and_false, if_neg Bool.false_ne_true]
    exact failed.2.symm
  · rfl

theorem visited (s : Store) (v : Visit) : Visited s v (s.visit v).1 (s.visit v).2 := by
  cases there : v.there with
  | false =>
    rw [visit_missing there]
    exact .missing there
  | true =>
    rw [visit_fetch there, fetch]
    cases held : s.get? v.place.text with
    | some m => exact .kept there held
    | none =>
      dsimp only
      split
      · rename_i read
        exact .failed there held (congrArg Prod.snd read)
      · rename_i read
        exact .read there held (congrArg Prod.snd read)

end Visits

section Keeping

variable {history : List Event} {s next : Store} {v w : Visit} {m : Made} {e : Event} {place other : String}
  {entries : List (String × Made)}

theorem unlisted_iff : ((entries.find? fun entry => entry.1 == place).map (·.2)) = none ↔ place ∉ entries.map (·.1) := by
  simp only [Option.map_eq_none_iff, List.find?_eq_none, beq_iff_eq, List.mem_map, not_exists, not_and]

theorem get?_keep_same (s : Store) (place : String) (m : Made) : (s.keep place m).get? place = some m := by
  simp [get?, keep, capacity]

theorem kept_distinct (distinct : (s.kept.map (·.1)).Nodup) (place : String) (m : Made) :
    ((s.keep place m).kept.map (·.1)).Nodup := by
  have whole : (((place, m) :: s.kept.filter (·.1 != place)).map (·.1)).Nodup := by
    rw [List.map_cons, List.nodup_cons]
    exact ⟨by simp, (List.Sublist.map _ List.filter_sublist).nodup distinct⟩
  exact (List.Sublist.map _ (List.take_sublist _ _)).nodup whole

theorem get?_keep (room : (s.kept.filter (·.1 != place)).length < capacity) (m : Made) (other : String) :
    (s.keep place m).get? other = if other = place then some m else s.get? other := by
  rw [get?, keep, List.take_of_length_le (by rw [List.length_cons]; exact room)]
  by_cases same : other = place
  · simp [same]
  · rw [if_neg same, List.find?_cons_of_neg (by simpa using Ne.symm same), List.find?_filter, get?]
    congr 2
    funext entry
    by_cases here : entry.1 = other
    · simp [here, same]
    · simp [here]

theorem given_snoc (history : List Event) (e : Event) :
    given (history ++ [e]) = if e.clears then [] else given history ++ e.given?.toList := by
  unfold given sinceClear
  rw [List.rtakeWhile_concat]
  cases e.clears with
  | true => simp
  | false => cases gave : e.given? <;> simp [gave]

theorem first?_load (history : List Event) (v : Visit) (result : Except LoadFault Made) (place : String) :
    first? (history ++ [.loaded v result]) place =
      (first? history place).or (if v.place.text = place then result.toOption else none) := by
  rw [first?, given_snoc, Event.clears, if_neg Bool.false_ne_true, List.find?_append, Option.map_or, first?, Event.given?]
  cases result with
  | error fault => simp [Except.toOption]
  | ok m => by_cases same : v.place.text = place <;> simp [Except.toOption, same]

theorem first?_clear (history : List Event) (place : String) : first? (history ++ [.cleared]) place = none := by
  rw [first?, given_snoc, Event.clears, if_pos rfl, List.find?_nil, Option.map_none]

structure Keeps (history : List Event) (s : Store) : Prop where
  distinct : (s.kept.map (·.1)).Nodup
  short : s.kept.length ≤ capacity
  found : ∀ place, s.get? place = first? history place

theorem Roomy.before (roomy : Roomy (history ++ [e])) (quiet : e.clears = false) : Roomy history := by
  rw [Roomy, given_snoc, quiet, if_neg Bool.false_ne_true] at roomy
  refine le_trans (Finset.card_le_card ?_) roomy
  rw [List.map_append, List.toFinset_append]
  exact Finset.subset_union_left

theorem Keeps.room (keeps : Keeps history s) (unheld : s.get? place = none) (quiet : e.clears = false)
    (gave : e.given? = some (place, m)) (roomy : Roomy (history ++ [e])) : s.kept.length < capacity := by
  have fresh : place ∉ s.kept.map (·.1) := unlisted_iff.mp unheld
  have within : (place :: s.kept.map (·.1)).toFinset ⊆ ((given (history ++ [e])).map (·.1)).toFinset := by
    intro other among
    rw [given_snoc, quiet, if_neg Bool.false_ne_true, gave, List.mem_toFinset]
    rw [List.mem_toFinset, List.mem_cons] at among
    rcases among with rfl | held
    · simp
    · by_contra missing
      have unlisted : first? history other = none :=
        unlisted_iff.mpr fun among => missing (by rw [List.map_append]; exact List.mem_append_left _ among)
      rw [← keeps.found] at unlisted
      exact unlisted_iff.mp unlisted held
  have count := List.toFinset_card_of_nodup (List.nodup_cons.mpr ⟨fresh, keeps.distinct⟩)
  rw [List.length_cons, List.length_map] at count
  exact Nat.lt_of_succ_le (count.symm.le.trans ((Finset.card_le_card within).trans roomy))

theorem Keeps.keep (keeps : Keeps history s) (room : (s.kept.filter (·.1 != v.place.text)).length < capacity)
    (gave : s.get? v.place.text = some m ∨ s.get? v.place.text = none) :
    Keeps (history ++ [.loaded v (.ok m)]) (s.keep v.place.text m) where
  distinct := kept_distinct keeps.distinct _ m
  short := List.length_take_le _ _
  found other := by
    rw [get?_keep room, first?_load, ← keeps.found]
    by_cases same : other = v.place.text
    · subst same
      rcases gave with held | unheld <;> simp [Except.toOption, *]
    · simp [same, Ne.symm same]

variable [Yaml.Library]

theorem Visited.held (visited : Visited s v result next) (there : v.there = true) (held : s.get? v.place.text = some m) :
    result = .ok m := by
  cases visited with
  | missing absent => rw [there] at absent; cases absent
  | kept _ held' => rw [held] at held'; cases held'; rfl
  | failed _ unheld | read _ unheld => rw [held] at unheld; cases unheld

theorem Visited.fresh (visited : Visited s v result next) (there : v.there = true) (unheld : s.get? v.place.text = none) :
    result.map (·.config) = v.reading := by
  cases visited with
  | missing absent => rw [there] at absent; cases absent
  | kept _ held => rw [unheld] at held; cases held
  | failed _ _ read | read _ _ read => exact read.symm

theorem Visited.unchanged (visited : Visited s v (.error fault) next) : next = s := by cases visited <;> rfl

theorem Visited.left (visited : Visited s v (.ok m) next) : next.get? v.place.text = some m := by
  cases visited <;> exact get?_keep_same _ _ _

theorem Keeps.load (keeps : Keeps history s) (visited : Visited s v result next)
    (roomy : Roomy (history ++ [.loaded v result])) : Keeps (history ++ [.loaded v result]) next := by
  cases visited with
  | missing | failed => exact ⟨keeps.distinct, keeps.short, fun place => by simp [first?_load, keeps.found, Except.toOption]⟩
  | @kept m there held =>
    have listed : v.place.text ∈ s.kept.map (·.1) := by
      by_contra unlisted
      rw [get?, unlisted_iff.mpr unlisted] at held
      cases held
    obtain ⟨entry, among, same⟩ := List.mem_map.mp listed
    have dropped : ∃ entry ∈ s.kept, ¬ (entry.1 != v.place.text) = true := ⟨entry, among, by simp [same]⟩
    exact keeps.keep (Nat.lt_of_lt_of_le (List.length_filter_lt_length_iff_exists.mpr dropped) keeps.short) (.inl held)
  | @read c there unheld read =>
    have room : s.kept.length < capacity := keeps.room unheld rfl rfl roomy
    have made : Keeps history (s.make c).2 := ⟨keeps.distinct, keeps.short, keeps.found⟩
    exact made.keep (Nat.lt_of_le_of_lt (List.length_filter_le _ _) room) (.inr unheld)

theorem Run.keeps (ran : Run history s) (roomy : Roomy history) : Keeps history s := by
  induction ran with
  | start => exact ⟨List.nodup_nil, Nat.zero_le _, fun _ => rfl⟩
  | @load history s result next before v visit_v ih =>
    have went := visited s v
    rw [visit_v] at went
    exact (ih (roomy.before rfl)).load went roomy
  | clear before ih => exact ⟨List.nodup_nil, Nat.zero_le _, fun place => (first?_clear _ place).symm⟩

theorem Run.source (ran : Run history s) (roomy : Roomy history) (given : first? history place = some m) :
    ∃ early v late, history = early ++ .loaded v (.ok m) :: late ∧ (∀ e ∈ late, e.clears = false) ∧
      first? early place = none ∧ v.place.text = place ∧ v.there = true ∧ v.reading = .ok m.config := by
  induction ran with
  | start => cases given
  | @load history s result next before v visit_v ih =>
    rw [first?_load] at given
    cases earlier : first? history place with
    | some m' =>
      rw [earlier, Option.some_or] at given
      obtain ⟨early, v', late, rfl, quiet, rest⟩ := ih (roomy.before rfl) (earlier.trans given)
      refine ⟨early, v', late ++ [.loaded v result], by simp, ?_, rest⟩
      exact List.forall_mem_append.mpr ⟨quiet, fun e newest => by rw [List.mem_singleton.mp newest]; rfl⟩
    | none =>
      rw [earlier, Option.none_or] at given
      split at given
      · rename_i same
        have went := visited s v
        rw [visit_v] at went
        cases went with
        | missing | failed => cases given
        | kept there held =>
          rw [(before.keeps (roomy.before rfl)).found, same, earlier] at held
          cases held
        | read there unheld read =>
          cases given
          exact ⟨history, v, [], rfl, List.forall_mem_nil _, earlier, same, there, read⟩
      · cases given
  | clear before ih =>
    rw [first?_clear] at given
    cases given

theorem run_serves (ran : Run history s) (roomy : Roomy history) : Serves history s := by
  have keeps := ran.keeps roomy
  constructor
  case first =>
    intro v m there given
    exact (visited s v).held there ((keeps.found _).trans given)
  case source =>
    intro place m given
    exact ran.source roomy given
  case fresh =>
    intro v there given
    exact (visited s v).fresh there ((keeps.found _).trans given)
  case missing =>
    intro v absent
    rw [visit_missing absent]
  case failed =>
    intro v fault failed
    have went := visited s v
    rw [failed] at went
    exact went.unchanged
  case spelled =>
    intro v w asked
    rw [Visit.place, asked, Visit.place, Path.absolute, Path.absolute]
    split <;> simp_all
  case shared =>
    intro v w m loaded same there
    have went := visited s v
    rw [loaded] at went
    exact (visited _ w).held there (same ▸ went.left)

end Keeping

section Samples

open scoped Yaml.Safe

-- A file is loaded while a variable is set, and again by its path from the root when the
-- variable is gone.
def loud : Visit := ⟨debugging, jsonFile, ⟨0, ["log.toml"]⟩⟩

def quiet : Visit := ⟨⟨[]⟩, jsonFile, ⟨1, ["log.toml"]⟩⟩

def jsonKept : Store := ⟨[("/log.toml", ⟨0, jsonDebugging⟩)], 1⟩

theorem loud_run : Run [.loaded loud (.ok ⟨0, jsonDebugging⟩)] jsonKept :=
  .load .start loud (congrArg Prod.snd jsonFile_loaded)

theorem quiet_reading : ∃ c, quiet.reading = .ok c ∧ c.logging.level = "INFO" := by
  have plain : expand ⟨[]⟩ jsonPart = jsonPart := by cbv
  refine ⟨⟨{ Logging.default with format := "json" }, .default⟩, ?_, rfl⟩
  have place : quiet.place = ⟨1, ["log.toml"]⟩ := rfl
  rw [Visit.reading, place, readConfig]
  simp only [quiet, jsonFile_part, settle, plain]
  rfl

theorem loud_serves : Run [.loaded loud (.ok ⟨0, jsonDebugging⟩)] jsonKept ∧
    Roomy [.loaded loud (.ok ⟨0, jsonDebugging⟩)] ∧
    (jsonKept.visit quiet).1 = .ok ⟨0, jsonDebugging⟩ ∧ ∃ c, quiet.reading = .ok c ∧ c.logging.level = "INFO" := by
  have roomy : Roomy [.loaded loud (.ok ⟨0, jsonDebugging⟩)] := by
    have count : ([loud.place.text].toFinset).card ≤ capacity := List.toFinset_card_le _ |>.trans (by decide)
    exact count
  exact ⟨loud_run, roomy, (run_serves loud_run roomy).first quiet _ rfl rfl, quiet_reading⟩

end Samples

end DaoMapper.Settings.Store
