import DaoMapper.Mapper.Imports
import Mathlib.Data.List.Nodup

-- What an import table holds, and what looking for classes one after the other
-- adds to it and rules out.
namespace DaoMapper.Mapper

def TypeRef.Imported (t : TypeRef) : Prop := t.isBuiltin = false ∧ t.isClass = true

instance (t : TypeRef) : Decidable t.Imported := inferInstanceAs (Decidable (_ ∧ _))

namespace Imports

def Holds (imports : Imports) (module name : String) : Prop :=
  ∃ entry ∈ imports, entry.1 = module ∧ name ∈ entry.2

theorem mem_addName : name ∈ addName names new ↔ name ∈ names ∨ name = new := by
  unfold addName
  split
  · rename_i there
    constructor
    · exact .inl
    · rintro (old | rfl)
      · exact old
      · simpa using there
  · simp

theorem holds_cons : Holds (entry :: rest) module name ↔
    (entry.1 = module ∧ name ∈ entry.2) ∨ Holds rest module name := by
  simp [Holds]

theorem add_holds (imports : Imports) (module name : String) :
    Holds (imports.add module name) m n ↔ Holds imports m n ∨ (m = module ∧ n = name) := by
  induction imports with
  | nil => simp [Imports.add, Holds, eq_comm]
  | cons entry rest ih =>
    unfold Imports.add
    split
    · rename_i same
      have same : entry.1 = module := by simpa using same
      rw [holds_cons, holds_cons, mem_addName, same]
      constructor
      · rintro (⟨rfl, old | rfl⟩ | later)
        · exact .inl (.inl ⟨rfl, old⟩)
        · exact .inr ⟨rfl, rfl⟩
        · exact .inl (.inr later)
      · rintro ((⟨rfl, old⟩ | later) | ⟨rfl, rfl⟩)
        · exact .inl ⟨rfl, .inl old⟩
        · exact .inr later
        · exact .inl ⟨rfl, .inr rfl⟩
    · rw [holds_cons, holds_cons, ih]
      exact or_assoc.symm

theorem add_modules (imports : Imports) (module name : String) :
    m ∈ (imports.add module name).map (·.1) ↔ m ∈ imports.map (·.1) ∨ m = module := by
  induction imports with
  | nil => simp [Imports.add]
  | cons entry rest ih =>
    unfold Imports.add
    split
    · rename_i same
      have same : entry.1 = module := by simpa using same
      simp only [List.map_cons, List.mem_cons, same]
      constructor
      · exact .inl
      · rintro (old | rfl)
        · exact old
        · exact .inl rfl
    · simp only [List.map_cons, List.mem_cons, ih]
      exact or_assoc.symm

theorem add_distinct (distinct : (imports.map (·.1)).Nodup) :
    ((Imports.add imports module name).map (·.1)).Nodup := by
  induction imports with
  | nil => simp [Imports.add]
  | cons entry rest ih =>
    obtain ⟨first, later⟩ := List.nodup_cons.mp distinct
    unfold Imports.add
    split
    · exact distinct
    · rename_i other
      refine List.nodup_cons.mpr ⟨?_, ih later⟩
      rw [add_modules]
      rintro (again | same)
      · exact first again
      · exact other (by simpa using same)

-- Some classes were named, and some names of the library's own put in.
structure Grown (before after : Imports) (classes : List TypeRef) (own : List (String × String)) : Prop where
  holds : ∀ module name, Holds after module name ↔ Holds before module name ∨ (module, name) ∈ own ∨
    ∃ t ∈ classes, t.Imported ∧ t.module = module ∧ t.importName = name
  -- No class has been given a name that another module had in the table.
  agrees : ∀ t ∈ classes, t.Imported → ∀ module, Holds before module t.importName → module = t.module
  alike : ∀ t ∈ classes, ∀ u ∈ classes, t.Imported → u.Imported → t.importName = u.importName →
    t.module = u.module
  distinct : (before.map (·.1)).Nodup → (after.map (·.1)).Nodup

theorem Grown.refl (imports : Imports) : Grown imports imports [] [] where
  holds := by simp
  agrees := by simp
  alike := by simp
  distinct := id

theorem Grown.trans (one : Grown before middle ts xs) (two : Grown middle after us ys) :
    Grown before after (ts ++ us) (xs ++ ys) where
  holds module name := by
    rw [two.holds, one.holds]
    simp only [List.mem_append, or_and_right, exists_or]
    grind
  agrees := by
    intro t member imported module held
    rcases List.mem_append.mp member with early | late
    · exact one.agrees t early imported module held
    · exact two.agrees t late imported module ((one.holds _ _).mpr (.inl held))
  alike := by
    have across : ∀ t ∈ ts, ∀ u ∈ us, t.Imported → u.Imported → t.importName = u.importName →
        t.module = u.module := by
      intro t early u late imported other same
      refine two.agrees u late other t.module ?_
      exact (one.holds _ _).mpr (.inr (.inr ⟨t, early, imported, rfl, same⟩))
    intro t first u second imported other same
    rcases List.mem_append.mp first with early | late
    · rcases List.mem_append.mp second with early' | late'
      · exact one.alike t early u early' imported other same
      · exact across t early u late' imported other same
    · rcases List.mem_append.mp second with early' | late'
      · exact (across u early' t late other imported same.symm).symm
      · exact two.alike t late u late' imported other same
  distinct := fun start => two.distinct (one.distinct start)

theorem add_grown (imports : Imports) (module name : String) :
    Grown imports (imports.add module name) [] [(module, name)] where
  holds m n := by simp [add_holds]
  agrees := by simp
  alike := by simp
  distinct := add_distinct

theorem need_grown (needed : imports.need t = .ok next) : Grown imports next [t] [] := by
  unfold need at needed
  split at needed
  · rename_i skipped
    cases needed
    have skipped : ¬ t.Imported := by
      rintro ⟨own, isClass⟩
      simp [own, isClass] at skipped
    exact ⟨by simp [skipped], by simp [skipped], by simp, id⟩
  · rename_i named
    split at needed
    · cases needed
    · split at needed
      · cases needed
      · rename_i unclaimed
        cases needed
        have imported : t.Imported := by
          simpa [TypeRef.Imported] using named
        refine ⟨?_, ?_, by simp, add_distinct⟩
        · intro module name
          rw [add_holds]
          simp [imported, eq_comm]
        · intro u member _ module held
          obtain rfl := List.mem_singleton.mp member
          obtain ⟨entry, there, rfl, named⟩ := held
          by_contra other
          have claimed := List.find?_eq_none.mp unclaimed entry there
          simp [named, other] at claimed

theorem needAll_grown (needed : imports.needAll classes = (next, none)) : Grown imports next classes [] := by
  induction classes generalizing imports with
  | nil =>
    cases needed
    exact .refl _
  | cons t rest ih =>
    unfold needAll at needed
    cases first : imports.need t with
    | error c => simp [first] at needed
    | ok middle =>
      simp only [first] at needed
      exact (need_grown first).trans (ih needed)

theorem addAll_grown (imports : Imports) (module : String) (names : List String) :
    Grown imports (names.foldl (fun imports name => imports.add module name) imports) []
      (names.map (module, ·)) := by
  induction names generalizing imports with
  | nil => exact .refl _
  | cons name rest ih => exact (add_grown imports module name).trans (ih _)

theorem mem_sortTexts {texts : List String} : text ∈ sortTexts texts ↔ text ∈ texts := List.mem_mergeSort

theorem not_lt_iff_le (a b : String) : (!decide (b < a)) = true ↔ a ≤ b := by
  rw [Bool.not_eq_true', decide_eq_false_iff_not, String.not_lt]

theorem sortTexts_sorted (texts : List String) : (sortTexts texts).Pairwise (· ≤ ·) := by
  refine (List.pairwise_mergeSort ?_ ?_ texts).imp fun {a b} => (not_lt_iff_le a b).mp
  · intro a b c
    simp only [not_lt_iff_le]
    exact String.le_trans
  · intro a b
    rw [Bool.or_eq_true, not_lt_iff_le, not_lt_iff_le]
    exact String.le_total a b

theorem sortTexts_eq (perm : texts.Perm sorted) (ordered : sorted.Pairwise (· ≤ ·)) : sortTexts texts = sorted :=
  ((List.mergeSort_perm _ _).trans perm).eq_of_pairwise (fun _ _ _ _ => String.le_antisymm)
    (sortTexts_sorted texts) ordered

theorem sortTexts_strict (distinct : texts.Nodup) : (sortTexts texts).Pairwise (· < ·) := by
  have still : (sortTexts texts).Nodup := (List.mergeSort_perm _ _).nodup_iff.mpr distinct
  exact ((sortTexts_sorted texts).and still).imp fun {a b} ⟨before, other⟩ =>
    String.not_le.mp fun behind => other (String.le_antisymm before behind)

def Written (imports : Imports) (block : List Code.Import) : Prop :=
  (imports.map (·.1)).Perm (block.map (·.module)) ∧ (block.map (·.module)).Pairwise (· ≤ ·) ∧
    ∀ i ∈ block, (((imports.find? (·.1 == i.module)).map (·.2)).getD []).Perm i.names ∧ i.names.Pairwise (· ≤ ·)

instance (imports : Imports) (block : List Code.Import) : Decidable (imports.Written block) :=
  inferInstanceAs (Decidable (_ ∧ _ ∧ _))

theorem statements_eq {imports : Imports} (written : imports.Written block) : imports.statements = block := by
  obtain ⟨modules, ordered, names⟩ := written
  unfold statements
  rw [sortTexts_eq modules ordered, List.map_map]
  conv_rhs => rw [← List.map_id block]
  refine List.map_congr_left fun i member => ?_
  obtain ⟨own, ordered⟩ := names i member
  simp [sortTexts_eq own ordered]

theorem find_entry {imports : Imports} (distinct : (imports.map (·.1)).Nodup) (there : entry ∈ imports) :
    imports.find? (·.1 == entry.1) = some entry := by
  cases found : imports.find? (·.1 == entry.1) with
  | none =>
    have absent := List.find?_eq_none.mp found entry there
    simp at absent
  | some other =>
    have same : other.1 = entry.1 := by simpa using List.find?_some found
    rw [List.inj_on_of_nodup_map distinct (List.mem_of_find?_eq_some found) there same]

def Tidy (imports : Imports) : Prop := ∀ entry ∈ imports, entry.2 ≠ [] ∧ entry.2.Nodup

theorem addName_tidy (distinct : names.Nodup) (name : String) : addName names name ≠ [] ∧ (addName names name).Nodup := by
  unfold addName
  split
  · rename_i there
    exact ⟨fun none => by simp [none] at there, distinct⟩
  · rename_i new
    refine ⟨by simp, List.nodup_append.mpr ⟨distinct, List.nodup_singleton name, ?_⟩⟩
    intro old member added last same
    rw [same, List.mem_singleton.mp last] at member
    exact new (by simpa using member)

theorem add_tidy {imports : Imports} (tidy : imports.Tidy) (module name : String) : (imports.add module name).Tidy := by
  induction imports with
  | nil => simp [Imports.add, Tidy]
  | cons entry rest ih =>
    obtain ⟨first, later⟩ := List.forall_mem_cons.mp tidy
    unfold Imports.add
    split
    · exact List.forall_mem_cons.mpr ⟨addName_tidy first.2 name, later⟩
    · exact List.forall_mem_cons.mpr ⟨first, ih later⟩

theorem statements_strict {imports : Imports} (distinct : (imports.map (·.1)).Nodup) (tidy : imports.Tidy) :
    (imports.statements.map (·.module)).Pairwise (· < ·) ∧
      ∀ i ∈ imports.statements, i.names ≠ [] ∧ i.names.Pairwise (· < ·) := by
  constructor
  · rw [statements, List.map_map]
    simpa [Function.comp_def] using sortTexts_strict distinct
  · intro i written
    obtain ⟨module, sorted, rfl⟩ := List.mem_map.mp written
    obtain ⟨entry, there, rfl⟩ := List.mem_map.mp (mem_sortTexts.mp sorted)
    obtain ⟨some, once⟩ := tidy entry there
    simp only [find_entry distinct there, Option.map_some, Option.getD_some]
    refine ⟨fun none => some ?_, sortTexts_strict once⟩
    exact List.Perm.eq_nil (none ▸ (List.mergeSort_perm _ _).symm)

theorem statements_hold {imports : Imports} (distinct : (imports.map (·.1)).Nodup) :
    (∃ i ∈ imports.statements, i.module = module ∧ name ∈ i.names) ↔ Holds imports module name := by
  constructor
  · rintro ⟨i, written, rfl, named⟩
    obtain ⟨m, sorted, rfl⟩ := List.mem_map.mp written
    obtain ⟨entry, there, rfl⟩ := List.mem_map.mp (mem_sortTexts.mp sorted)
    simp only [find_entry distinct there, Option.map_some, Option.getD_some] at named
    exact ⟨entry, there, rfl, mem_sortTexts.mp named⟩
  · rintro ⟨entry, there, rfl, named⟩
    refine ⟨_, List.mem_map_of_mem (mem_sortTexts.mpr (List.mem_map_of_mem there)), rfl, ?_⟩
    simpa only [find_entry distinct there, Option.map_some, Option.getD_some] using mem_sortTexts.mpr named

end Imports

end DaoMapper.Mapper
