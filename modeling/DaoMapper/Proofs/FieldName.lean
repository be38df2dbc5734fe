import DaoMapper.Mapper.FieldName
import Mathlib.Data.List.Nodup
import Std.Data.String.ToNat

-- Names handed out for fields are none of the taken ones, and no two are the same.
namespace DaoMapper.Mapper

theorem numbered_injective (same : numbered base m = numbered base n) : m = n := by
  unfold numbered at same
  exact Nat.repr_injective ((String.append_right_inj _).mp same)

theorem numbered_longer (base : String) (n : Nat) : base.length < (numbered base n).length := by
  have underscore : ("_" : String).length = 1 := rfl
  simp only [numbered, String.length_append, underscore]
  omega

theorem candidates_distinct (base : String) (taken : Nat) : (candidates base taken).Nodup := by
  refine List.nodup_cons.mpr ⟨?_, ?_⟩
  · intro member
    obtain ⟨i, _, same⟩ := List.mem_map.mp member
    have longer := numbered_longer base (i + 2)
    rw [same] at longer
    exact Nat.lt_irrefl _ longer
  · refine List.Nodup.map ?_ List.nodup_range
    intro i j same
    have equal := numbered_injective same
    omega

-- There is one candidate more than there are taken names, so the search ends.
theorem candidate_free (taken : List String) (base : String) :
    ∃ name, ((candidates base taken.length).find? fun c => !taken.contains c) = some name := by
  refine Option.isSome_iff_exists.mp (List.find?_isSome.mpr ?_)
  by_contra none
  have all : candidates base taken.length ⊆ taken := by
    intro name member
    by_contra free
    exact none ⟨name, member, by simpa using free⟩
  have short := (candidates_distinct base taken.length).length_le_of_subset all
  simp only [candidates, List.length_cons, List.length_map, List.length_range] at short
  omega

theorem freeName_free (taken : List String) (base : String) : freeName taken base ∉ taken := by
  obtain ⟨name, found⟩ := candidate_free taken base
  have free := List.find?_some found
  unfold freeName
  rw [found]
  simpa using free

theorem uniqueField_free (taken : List String) (suggestion : String) :
    uniqueField taken suggestion ∉ taken :=
  freeName_free _ _

theorem uniqueFields_length (taken suggestions : List String) :
    (uniqueFields taken suggestions).length = suggestions.length := by
  induction suggestions generalizing taken with
  | nil => rfl
  | cons suggestion rest ih => simp [uniqueFields, ih]

theorem uniqueFields_free (taken suggestions : List String) :
    ∀ name ∈ uniqueFields taken suggestions, name ∉ taken := by
  induction suggestions generalizing taken with
  | nil => simp [uniqueFields]
  | cons suggestion rest ih =>
    intro name member
    rcases List.mem_cons.mp member with rfl | later
    · exact uniqueField_free _ _
    · exact fun old => ih _ name later (List.mem_cons_of_mem _ old)

theorem uniqueFields_distinct (taken suggestions : List String) :
    (uniqueFields taken suggestions).Nodup := by
  induction suggestions generalizing taken with
  | nil => exact List.nodup_nil
  | cons suggestion rest ih =>
    refine List.nodup_cons.mpr ⟨?_, ih _⟩
    exact fun again => uniqueFields_free _ _ _ again List.mem_cons_self

end DaoMapper.Mapper
