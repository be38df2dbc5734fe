import DaoMapper.Proofs.Reading
import Mathlib.Data.List.Nodup

-- What is known of the methods of a declaration that was scanned.
namespace DaoMapper.Interface

theorem eraseDups_distinct [BEq α] [LawfulBEq α] (all : List α) : all.eraseDups.Nodup := by
  cases all with
  | nil => exact List.nodup_nil
  | cons a rest =>
    rw [List.eraseDups_cons]
    refine List.nodup_cons.mpr ⟨?_, eraseDups_distinct _⟩
    simp [List.mem_eraseDups]
termination_by all.length
decreasing_by
  rw [List.length_cons]
  exact Nat.lt_succ_of_le (List.length_filter_le _ _)

theorem eraseDups_snoc [BEq α] [LawfulBEq α] (all : List α) (a : α) :
    (all ++ [a]).eraseDups = if a ∈ all then all.eraseDups else all.eraseDups ++ [a] := by
  rw [List.eraseDups_append]
  split <;> simp [List.removeAll, List.eraseDups_cons, *]

-- A name that is defined again stays where it is; a new one comes last.
theorem put_names (all : Attributes) (name : String) (a : Attribute) : (all.put name a).map (·.1) =
    if name ∈ all.map (·.1) then all.map (·.1) else all.map (·.1) ++ [name] := by
  induction all with
  | nil => rfl
  | cons first rest ih =>
    obtain ⟨n, old⟩ := first
    unfold Attributes.put
    by_cases same : n = name
    · simp [same]
    · rw [if_neg (by simpa using same), List.map_cons, ih]
      split <;> simp_all [Ne.symm same]

theorem update_names {all : Attributes} (inOrder : all.map (·.1) = names.eraseDups) (more : List (String × Attribute)) :
    (all.update more).map (·.1) = (names ++ more.map (·.1)).eraseDups := by
  induction more generalizing all names with
  | nil => simpa [Attributes.update] using inOrder
  | cons entry rest ih =>
    have further : (all.put entry.1 entry.2).map (·.1) = (names ++ [entry.1]).eraseDups := by
      rw [put_names, inOrder, eraseDups_snoc]
      simp only [List.mem_eraseDups]
    rw [List.map_cons, List.append_cons]
    exact ih further

-- The members of a class come in the order in which the classes of its line, farthest
-- first, define their names for the first time.
theorem Hierarchy.namesInOrder_eq (h : Hierarchy) (c : ClassId) : h.namesInOrder c =
    ((h.lineOf c).reverse.flatMap fun a => (h.attributesOf a).map (·.1)).eraseDups := by
  have along (line : List ClassId) {all : Attributes} {names : List String} (inOrder : all.map (·.1) = names.eraseDups) :
      (line.foldl (fun all a => all.update (h.attributesOf a)) all).map (·.1) =
        (names ++ line.flatMap fun a => (h.attributesOf a).map (·.1)).eraseDups := by
    induction line generalizing all names with
    | nil => simpa using inOrder
    | cons a rest ih =>
      rw [List.foldl_cons, List.flatMap_cons, ← List.append_assoc]
      exact ih (update_names inOrder _)
  have none : ([] : Attributes).map (·.1) = ([] : List String).eraseDups := rfl
  have listed := along (h.lineOf c).reverse none
  rwa [List.nil_append] at listed

theorem Hierarchy.namesInOrder_distinct (h : Hierarchy) (c : ClassId) : (h.namesInOrder c).Nodup := by
  rw [h.namesInOrder_eq]
  exact eraseDups_distinct _

theorem scan_methods {h : Hierarchy} (scanned : h.scan target report = (after, .ok d)) :
    (d.methods.map (·.signature.name)).Nodup ∧ ∀ m ∈ d.methods, m.signature.name ∈ d.members := by
  obtain ⟨c, rfl, scanned⟩ := scan_class scanned
  obtain ⟨next, _, through, _, rfl⟩ := scanClass_ok scanned
  have read := through.read
  constructor
  · rw [read]
    exact ((h.namesInOrder_distinct c).filter _).filter _
  · intro m member
    have named := List.mem_map_of_mem (f := (·.signature.name)) member
    rw [read] at named
    have inOrder := (List.mem_filter.mp (List.mem_filter.mp named).1).1
    exact List.mem_eraseDups.mpr (List.mem_append_left _ (List.mem_append_left _ inOrder))

end DaoMapper.Interface
