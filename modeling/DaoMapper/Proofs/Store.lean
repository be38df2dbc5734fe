import DaoMapper.Cache.Store
import Mathlib.Data.List.Nodup

-- Looking keys up in a store.
namespace DaoMapper.Cache.Store

variable {κ ν : Type} [DecidableEq κ]

@[simp] theorem get?_put_same (s : Store κ ν) (key : κ) (value : ν) : (s.put key value).get? key = some value := by
  obtain ⟨entries⟩ := s
  simp only [get?, put]
  induction entries with
  | nil => simp [putEntry]
  | cons e rest ih =>
    unfold putEntry
    split
    · simp
    · rename_i other
      simpa [other] using ih

theorem get?_put_other (s : Store κ ν) (value : ν) (other : wanted ≠ key) :
    (s.put key value).get? wanted = s.get? wanted := by
  obtain ⟨entries⟩ := s
  simp only [get?, put]
  induction entries with
  | nil => simp [putEntry, Ne.symm other]
  | cons e rest ih =>
    unfold putEntry
    split
    · rename_i same
      have foreign : e.1 ≠ wanted := by
        rintro rfl
        exact other same
      simp [Ne.symm other, foreign]
    · simp only [List.find?_cons]
      split
      · rfl
      · exact ih

@[simp] theorem get?_empty (key : κ) : (empty : Store κ ν).get? key = none := rfl

theorem get?_none_iff (s : Store κ ν) (key : κ) : s.get? key = none ↔ key ∉ s.entries.map (·.1) := by
  simp only [get?, Option.map_eq_none_iff, List.find?_eq_none, decide_eq_true_eq, List.mem_map, not_exists, not_and]

theorem mem_of_get? {s : Store κ ν} (found : s.get? key = some value) : (key, value) ∈ s.entries := by
  simp only [get?, Option.map_eq_some_iff] at found
  obtain ⟨e, at_key, rfl⟩ := found
  have same : e.1 = key := by simpa using List.find?_some at_key
  subst same
  exact List.mem_of_find?_eq_some at_key

theorem get?_some_iff {s : Store κ ν} (distinct : (s.entries.map (·.1)).Nodup) (key : κ) (value : ν) :
    s.get? key = some value ↔ (key, value) ∈ s.entries := by
  refine ⟨mem_of_get?, fun stands => ?_⟩
  cases found : s.get? key with
  | none => exact absurd (List.mem_map_of_mem stands) ((get?_none_iff s key).mp found)
  | some other =>
    have same := List.inj_on_of_nodup_map distinct (mem_of_get? found) stands rfl
    simpa using same

theorem put_absent {s : Store κ ν} (absent : s.get? key = none) (value : ν) :
    (s.put key value).entries = s.entries ++ [(key, value)] := by
  obtain ⟨entries⟩ := s
  rw [get?_none_iff] at absent
  induction entries with
  | nil => rfl
  | cons e rest ih =>
    simp only [List.map_cons, List.mem_cons, not_or] at absent
    simpa [put, putEntry, Ne.symm absent.1] using ih absent.2

end DaoMapper.Cache.Store
