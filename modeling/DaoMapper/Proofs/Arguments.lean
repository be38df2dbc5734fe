import DaoMapper.Interface.Binding
import Mathlib

-- How a call reaches parameters that all take a place: which calls do not fit, what a receiver in
-- front adds, and what changes where each parameter may be named as well.
namespace DaoMapper.Interface.Slot

variable {α β : Type} {slots : List (Slot α)} {arguments : List α} {keywords : List (String × α)}

def names (slots : List (Slot α)) : List String := slots.map (·.name)

def Positional (slots : List (Slot α)) : Prop := ∀ s ∈ slots, s.takesPosition = true

-- No argument is left over, each keyword names a parameter, and none of those that have a place.
structure Fits (slots : List (Slot α)) (arguments : List α) (keywords : List (String × α)) : Prop where
  few : arguments.length ≤ slots.length
  known : ∀ k ∈ keywords, ∃ s ∈ slots, s.takesKeyword = true ∧ s.name = k.1
  once : ∀ k ∈ keywords, k.1 ∉ (names slots).take arguments.length

inductive Misfit (slots : List (Slot α)) (arguments : List α) (keywords : List (String × α)) : Prop where
  | many (more : slots.length < arguments.length)
  | unknown (given : k ∈ keywords) (foreign : ∀ s ∈ slots, s.takesKeyword = true → s.name ≠ k.1)
  | twice (given : k ∈ keywords) (placed : k.1 ∈ (names slots).take arguments.length)
  | unbound (among : s ∈ slots) (needed : s.fallback = none) (unplaced : s.name ∉ (names slots).take arguments.length)
      (unnamed : s.takesKeyword = true → s.name ∉ keywords.map (·.1))

def value (slots : List (Slot α)) (arguments : List α) (keywords : List (String × α)) (s : Slot α) : Option α :=
  s.valueOf? ((names slots).zip arguments) keywords

theorem mapM_names {value : Slot α → Option α} (done : slots.mapM (fun s => (value s).map (s.name, ·)) = some bound) :
    bound.map (·.1) = names slots := by
  induction slots generalizing bound with
  | nil =>
    cases done
    rfl
  | cons s rest ih =>
    simp only [List.mapM_cons, bind, Option.bind_eq_some_iff, pure, Option.some.injEq] at done
    obtain ⟨entry, first, others, later, rfl⟩ := done
    obtain ⟨v, _, rfl⟩ := Option.map_eq_some_iff.mp first
    simp [names, ih later]

theorem mapM_congr {f g : Slot α → Option β} (each : ∀ s ∈ slots, f s = g s) : slots.mapM f = slots.mapM g := by
  induction slots with
  | nil => rfl
  | cons s rest ih =>
    rw [List.mapM_cons, List.mapM_cons, each s List.mem_cons_self,
      ih fun s member => each s (List.mem_cons_of_mem _ member)]

theorem mapM_none_iff {f : Slot α → Option β} : slots.mapM f = none ↔ ∃ s ∈ slots, f s = none := by
  induction slots with
  | nil => simp
  | cons s rest ih =>
    rw [List.mapM_cons]
    cases first : f s with
    | none => simp [first]
    | some b => cases later : rest.mapM f <;> simp_all

theorem take_zip (left : List String) (arguments : List α) : (left.zip arguments).map (·.1) = left.take arguments.length := by
  induction left generalizing arguments with
  | nil => simp
  | cons a left ih => cases arguments <;> simp [ih]

theorem find?_none_iff {entries : List (String × α)} {wanted : String} :
    entries.find? (·.1 == wanted) = none ↔ wanted ∉ entries.map (·.1) := by
  simp only [List.find?_eq_none, beq_iff_eq, List.mem_map, not_exists, not_and]

theorem value_none_iff (s : Slot α) : value slots arguments keywords s = none ↔ s.fallback = none ∧
    s.name ∉ (names slots).take arguments.length ∧ (s.takesKeyword = true → s.name ∉ keywords.map (·.1)) := by
  rw [value, valueOf?, ← take_zip, ← find?_none_iff, ← find?_none_iff]
  cases s.takesKeyword <;> simp [Option.or_eq_none_iff, and_comm]

section Positional

variable (positional : Positional slots)
include positional

theorem positional_filters : slots.filter takesPosition = slots ∧ slots.filter single = slots ∧
    absorbs slots .variadic = false ∧ absorbs slots .keywords = false := by
  have kinds : ∀ kind, kind ≠ .positional → kind ≠ .positionalOnly → absorbs slots kind = false := by
    intro kind other other'
    simp only [absorbs, List.any_eq_false, decide_eq_true_eq]
    rintro s member rfl
    have place := positional s member
    simp [takesPosition, other, other'] at place
  refine ⟨?_, ?_, kinds _ (by decide) (by decide), kinds _ (by decide) (by decide)⟩
  · exact List.filter_eq_self.mpr positional
  · exact List.filter_eq_self.mpr fun s member => by simp [single, positional s member]

theorem byPosition_positional (arguments : List α) : byPosition slots arguments = (names slots).zip arguments := by
  rw [byPosition, (positional_filters positional).1, names]

theorem fits_iff : (positionsFit slots arguments && keywords.all fun k => keywordFits slots ((names slots).zip arguments) k.1) =
    true ↔ Fits slots arguments keywords := by
  obtain ⟨positions, _, variadic, rest⟩ := positional_filters positional
  have taken (name : String) : (((names slots).zip arguments).any (·.1 == name)) = true ↔
      name ∈ (names slots).take arguments.length := by
    rw [← take_zip]
    simp
  have keyword (name : String) : keywordFits slots ((names slots).zip arguments) name = true ↔
      (∃ s ∈ slots, s.takesKeyword = true ∧ s.name = name) ∧ name ∉ (names slots).take arguments.length := by
    rw [← taken, keywordFits, rest]
    split
    · rename_i known
      have there : ∃ s ∈ slots, s.takesKeyword = true ∧ s.name = name := by simpa using known
      rw [Bool.not_eq_true', ← Bool.not_eq_true]
      exact ⟨fun free => ⟨there, free⟩, And.right⟩
    · rename_i unknown
      simp only [Bool.false_eq_true, false_iff, not_and]
      rintro ⟨s, member, takes, named⟩
      exact absurd (List.any_eq_true.mpr ⟨s, member, by simp [takes, named]⟩) unknown
  simp only [Bool.and_eq_true, positionsFit, positions, variadic, Bool.or_false, decide_eq_true_eq, List.all_eq_true, keyword]
  exact ⟨fun ⟨few, each⟩ => ⟨few, fun k given => (each k given).1, fun k given => (each k given).2⟩,
    fun fits => ⟨fits.few, fun k given => ⟨fits.known k given, fits.once k given⟩⟩⟩

theorem bind_iff : bind? slots arguments keywords = some bound ↔ Fits slots arguments keywords ∧
    slots.mapM (fun s => (value slots arguments keywords s).map (s.name, ·)) = some bound := by
  rw [← fits_iff positional]
  unfold bind?
  simp only [byPosition_positional positional, (positional_filters positional).2.1]
  split
  · rename_i fits
    simp only [fits, true_and, value]
  · rename_i unfit
    simp [unfit]

theorem bind_names (done : bind? slots arguments keywords = some bound) : bound.map (·.1) = names slots :=
  mapM_names ((bind_iff positional).mp done).2

theorem bind_none_iff : bind? slots arguments keywords = none ↔ Misfit slots arguments keywords := by
  constructor
  · intro fails
    by_cases fits : Fits slots arguments keywords
    · have stuck : slots.mapM (fun s => (value slots arguments keywords s).map (s.name, ·)) = none := by
        by_contra done
        obtain ⟨bound, done⟩ := Option.ne_none_iff_exists'.mp done
        rw [(bind_iff positional).mpr ⟨fits, done⟩] at fails
        cases fails
      obtain ⟨s, member, without⟩ := mapM_none_iff.mp stuck
      obtain ⟨needed, unplaced, unnamed⟩ := (value_none_iff s).mp (Option.map_eq_none_iff.mp without)
      exact .unbound member needed unplaced unnamed
    · by_contra sound
      refine fits ⟨?_, fun k given => ?_, fun k given placed => sound (.twice given placed)⟩
      · by_contra more
        exact sound (.many (by omega))
      · by_contra foreign
        exact sound (.unknown given fun s member takes named => foreign ⟨s, member, takes, named⟩)
  · intro misfit
    by_contra done
    obtain ⟨bound, done⟩ := Option.ne_none_iff_exists'.mp done
    obtain ⟨fits, done⟩ := (bind_iff positional).mp done
    cases misfit with
    | many more => exact absurd fits.few (by omega)
    | unknown given foreign =>
      obtain ⟨s, member, takes, named⟩ := fits.known _ given
      exact foreign s member takes named
    | twice given placed => exact fits.once _ given placed
    | @unbound s among needed unplaced unnamed =>
      have without := (value_none_iff s).mpr ⟨needed, unplaced, unnamed⟩
      rw [mapM_none_iff.mpr ⟨s, among, by rw [without]; rfl⟩] at done
      cases done

end Positional

theorem fits_receiver {r : Slot α} (foreign : r.name ∉ names slots) (o : α) (arguments : List α) (keywords : List (String × α)) :
    Fits (r :: slots) (o :: arguments) keywords ↔ Fits slots arguments keywords := by
  constructor
  · intro fits
    refine ⟨by simpa using fits.few, fun k given => ?_, fun k given placed => ?_⟩
    · obtain ⟨s, member, takes, named⟩ := fits.known k given
      obtain rfl | member := List.mem_cons.mp member
      · exact absurd (by simp [names, named]) (fits.once k given)
      · exact ⟨s, member, takes, named⟩
    · exact fits.once k given (List.mem_cons_of_mem _ placed)
  · intro fits
    refine ⟨by simpa using fits.few, fun k given => ?_, fun k given placed => ?_⟩
    · obtain ⟨s, member, takes, named⟩ := fits.known k given
      exact ⟨s, List.mem_cons_of_mem _ member, takes, named⟩
    · obtain same | placed := List.mem_cons.mp placed
      · obtain ⟨s, member, _, named⟩ := fits.known k given
        exact foreign (List.mem_map.mpr ⟨s, member, named.trans same⟩)
      · exact fits.once k given placed

theorem bind_receiver {r : Slot α} (place : r.takesPosition = true) (positional : Positional slots)
    (foreign : r.name ∉ names slots) (o : α) (arguments : List α) (keywords : List (String × α)) :
    bind? (r :: slots) (o :: arguments) keywords = (bind? slots arguments keywords).map ((r.name, o) :: ·) := by
  have positional' : Positional (r :: slots) := List.forall_mem_cons.mpr ⟨place, positional⟩
  have fits := fits_receiver foreign o arguments keywords
  have own : value (r :: slots) (o :: arguments) keywords r = some o := by
    simp [value, valueOf?, names]
  have others : ∀ s ∈ slots, value (r :: slots) (o :: arguments) keywords s = value slots arguments keywords s := by
    intro s member
    have other : r.name ≠ s.name := by
      intro same
      exact foreign (same ▸ List.mem_map_of_mem member)
    simp [value, valueOf?, names, other]
  ext bound
  rw [Option.map_eq_some_iff, bind_iff positional', fits, List.mapM_cons, own,
    mapM_congr fun s member => by rw [others s member]]
  simp only [bind_iff positional]
  cases slots.mapM fun s => (value slots arguments keywords s).map (s.name, ·) <;> simp

def loose (s : Slot α) : Slot α := { s with kind := .positional }

theorem loose_positional (slots : List (Slot α)) : Positional (slots.map loose) := by
  intro s member
  obtain ⟨s, _, rfl⟩ := List.mem_map.mp member
  simp [loose, takesPosition]

theorem loose_names (slots : List (Slot α)) : names (slots.map loose) = names slots := by
  simp [names, Function.comp_def, loose]

theorem bind_loose (positional : Positional slots)
    (unnamed : ∀ s ∈ slots, s.takesKeyword = false → s.name ∉ keywords.map (·.1)) (arguments : List α) :
    bind? (slots.map loose) arguments keywords = bind? slots arguments keywords := by
  have takes : ∀ s ∈ slots, ∀ k ∈ keywords, s.name = k.1 → s.takesKeyword = true := by
    intro s member k given named
    by_contra refuses
    exact unnamed s member (by simpa using refuses) (List.mem_map.mpr ⟨k, given, named.symm⟩)
  have fits : Fits (slots.map loose) arguments keywords ↔ Fits slots arguments keywords := by
    constructor
    · intro fits
      refine ⟨by simpa using fits.few, fun k given => ?_, by simpa [loose_names] using fits.once⟩
      obtain ⟨_, among, _, named⟩ := fits.known k given
      obtain ⟨s, member, rfl⟩ := List.mem_map.mp among
      exact ⟨s, member, takes s member k given named, named⟩
    · intro fits
      refine ⟨by simpa using fits.few, fun k given => ?_, by simpa [loose_names] using fits.once⟩
      obtain ⟨s, member, _, named⟩ := fits.known k given
      exact ⟨s.loose, List.mem_map_of_mem member, by simp [loose, takesKeyword], named⟩
  have values : ∀ s ∈ slots, value (slots.map loose) arguments keywords s.loose = value slots arguments keywords s := by
    intro s member
    rw [value, value, valueOf?, valueOf?, loose_names]
    cases own : s.takesKeyword with
    | true => simp [loose, takesKeyword]
    | false =>
      have absent := find?_none_iff.mpr (unnamed s member own)
      simp [loose, takesKeyword, absent]
  ext bound
  rw [bind_iff positional, bind_iff (loose_positional slots), fits, List.mapM_map]
  simp only [Function.comp_def]
  rw [mapM_congr fun s member => by rw [values s member]]
  rfl

theorem named_misfit (distinct : (names slots).Nodup) (member : s ∈ slots) (refuses : s.takesKeyword = false)
    (named : s.name ∈ keywords.map (·.1)) : Misfit slots arguments keywords := by
  obtain ⟨k, given, same⟩ := List.mem_map.mp named
  refine .unknown given fun other among takes called => ?_
  obtain rfl := List.inj_on_of_nodup_map distinct among member (called.trans same)
  rw [takes] at refuses
  cases refuses

end DaoMapper.Interface.Slot
