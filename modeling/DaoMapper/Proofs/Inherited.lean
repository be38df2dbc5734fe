import DaoMapper.Proofs.Scanned
import Mathlib.Data.List.Perm.Basic

-- Abstract members of declared classes: each is listed once, and some class of the
-- line defines it, so going along the line finds all of them.
namespace DaoMapper.Interface

theorem merge_mem {lines : List (List ClassId)} (merged : merge n lines = some line) (among : l ∈ lines)
    (member : c ∈ l) : c ∈ line := by
  induction n generalizing lines line l with
  | zero =>
    rw [merge] at merged
    split at merged
    · rename_i empty
      have none := List.all_eq_true.mp empty l among
      simp [List.isEmpty_iff.mp none] at member
    · cases merged
  | succ n ih =>
    rw [merge] at merged
    have kept : l ∈ lines.filter (!·.isEmpty) := by
      refine List.mem_filter.mpr ⟨among, ?_⟩
      cases l with
      | nil => cases member
      | cons _ _ => rfl
    split at merged
    · rename_i empty
      rw [List.isEmpty_iff.mp empty] at kept
      cases kept
    · split at merged
      · cases merged
      · rename_i next _
        obtain ⟨rest, shorter, rfl⟩ := Option.map_eq_some_iff.mp merged
        -- The class that is taken goes from the front of the lines, and from nowhere else.
        by_cases first : c = next
        · exact first ▸ List.mem_cons_self
        · refine List.mem_cons_of_mem _ (ih shorter (List.mem_map_of_mem kept) ?_)
          split
          · rename_i leads
            cases l with
            | nil => cases member
            | cons head tail =>
              have leads : head = next := by simpa using leads
              exact (List.mem_cons.mp member).resolve_left (leads ▸ first)
          · exact member

namespace Hierarchy

inductive Declared : Hierarchy → Prop where
  | standard : Declared standard
  | declare : Declared h → h.declare? objectId d = some next → Declared next

def ListsAbstract (h : Hierarchy) : Prop := ∀ c, (h.abstractOf c).Nodup ∧ h.abstractOf c ⊆ h.namesInOrder c

theorem mem_namesInOrder {h : Hierarchy} :
    name ∈ h.namesInOrder c ↔ ∃ a ∈ h.lineOf c, name ∈ (h.attributesOf a).map (·.1) := by
  simp [namesInOrder_eq]

section push

variable (h : Hierarchy) (info : ClassInfo)

def push : Hierarchy := ⟨h.classes.push info⟩

theorem push_old (old : c < h.classes.size) : (h.push info).classes[c]? = h.classes[c]? := by
  rw [push, Array.getElem?_push_lt old, Array.getElem?_eq_getElem old]

theorem push_new : (h.push info).classes[h.classes.size]? = some info :=
  Array.getElem?_push_size

theorem push_beyond (beyond : h.classes.size < c) : (h.push info).classes[c]? = none := by
  refine Array.getElem?_eq_none ?_
  rw [push, Array.size_push]
  exact beyond

theorem push_attributes (c : ClassId) : h.attributesOf c ⊆ (h.push info).attributesOf c := by
  by_cases old : c < h.classes.size
  · rw [attributesOf, attributesOf, push_old h info old]
    exact List.Subset.refl _
  · rw [attributesOf, Array.getElem?_eq_none (Nat.le_of_not_lt old)]
    exact List.nil_subset _

theorem push_names (old : c < h.classes.size) : h.namesInOrder c ⊆ (h.push info).namesInOrder c := by
  intro name member
  rw [mem_namesInOrder] at member ⊢
  obtain ⟨a, along, defines⟩ := member
  refine ⟨a, ?_, List.map_subset _ (push_attributes h info a) defines⟩
  rwa [lineOf, push_old h info old]

end push

theorem declare_ok {h : Hierarchy} (made : h.declare? object d = some next) :
    ∃ decl ancestors keeps, h.ancestors? decl.bases = some ancestors ∧
      next = h.push ⟨decl, h.classes.size :: ancestors, keeps, if keeps then h.abstractNames decl ancestors else []⟩ := by
  simp only [declare?, Option.bind_eq_bind, Option.bind_eq_some_iff, Option.pure_def, Option.some.injEq] at made
  obtain ⟨ancestors, ordered, rfl⟩ := made
  exact ⟨_, ancestors, _, ordered, rfl⟩

theorem ancestors_mem {h : Hierarchy} (ordered : h.ancestors? bases = some ancestors) (base : b ∈ bases)
    (along : a ∈ h.lineOf b) : a ∈ ancestors := by
  unfold ancestors? at ordered
  split at ordered
  · cases ordered
  · exact merge_mem ordered (List.mem_append_left _ (List.mem_map_of_mem base)) along

theorem abstractNames_mem {h : Hierarchy} (named : name ∈ h.abstractNames d ancestors) :
    name ∈ d.attributes.map (·.1) ∨ ∃ b ∈ d.bases, name ∈ h.abstractOf b := by
  simp only [abstractNames, List.mem_eraseDups, List.mem_append] at named
  rcases named with own | inherited
  · left
    obtain ⟨defined, among, rfl⟩ := List.mem_map.mp own
    exact List.mem_map_of_mem (List.mem_filter.mp among).1
  · right
    exact List.mem_flatMap.mp (List.mem_filter.mp inherited).1

theorem declare_lists {h : Hierarchy} (lists : h.ListsAbstract) (made : h.declare? object d = some next) :
    next.ListsAbstract := by
  obtain ⟨decl, ancestors, keeps, ordered, rfl⟩ := declare_ok made
  intro c
  rcases Nat.lt_trichotomy c h.classes.size with old | rfl | beyond
  · obtain ⟨distinct, named⟩ := lists c
    have same : (h.push ⟨decl, h.classes.size :: ancestors, keeps,
        if keeps then h.abstractNames decl ancestors else []⟩).abstractOf c = h.abstractOf c := by
      rw [abstractOf, abstractOf, push_old h _ old]
    rw [same]
    exact ⟨distinct, fun name member => push_names h _ old (named member)⟩
  · have abstract : (h.push ⟨decl, h.classes.size :: ancestors, keeps,
        if keeps then h.abstractNames decl ancestors else []⟩).abstractOf h.classes.size =
        if keeps then h.abstractNames decl ancestors else [] := by
      rw [abstractOf, push_new]
      rfl
    rw [abstract]
    cases keeps with
    | false => simp
    | true =>
      refine ⟨eraseDups_distinct _, fun name member => ?_⟩
      rw [mem_namesInOrder, lineOf, push_new]
      rcases abstractNames_mem member with own | ⟨b, base, inherited⟩
      · refine ⟨h.classes.size, List.mem_cons_self, ?_⟩
        rwa [attributesOf, push_new]
      · obtain ⟨a, along, defines⟩ := mem_namesInOrder.mp ((lists b).2 inherited)
        exact ⟨a, List.mem_cons_of_mem _ (ancestors_mem ordered base along),
          List.map_subset _ (push_attributes h _ a) defines⟩
  · rw [abstractOf, push_beyond h _ beyond]
    simp

theorem standard_lists : standard.ListsAbstract := by
  have distinct : ∀ d ∈ standardClasses, ((d.attributes.filter (·.2.isAbstract)).map (·.1)).Nodup := by decide +kernel
  intro c
  have placed : standard.classes[c]? = standardClasses[c]?.map fun d =>
      { decl := d
        line := if c = objectId then [objectId] else [c, objectId]
        keepsAbstract := d.keepsAbstract
        abstract := if d.keepsAbstract then (d.attributes.filter (·.2.isAbstract)).map (·.1) else [] } := by
    simp only [standard, List.getElem?_toArray, List.getElem?_mapIdx]
  cases found : standardClasses[c]? with
  | none =>
    rw [abstractOf, placed, found]
    simp
  | some d =>
    rw [found] at placed
    rw [abstractOf, placed]
    cases keeps : d.keepsAbstract with
    | false => simp [keeps]
    | true =>
      simp only [keeps, Option.map_some, if_true, Option.getD_some]
      refine ⟨distinct d (List.mem_of_getElem? found), fun name member => ?_⟩
      rw [mem_namesInOrder]
      refine ⟨c, ?_, ?_⟩
      · rw [lineOf, placed]
        simp only [Option.map_some, Option.getD_some]
        split <;> simp_all
      · rw [attributesOf, placed]
        obtain ⟨defined, among, rfl⟩ := List.mem_map.mp member
        exact List.mem_map_of_mem (List.mem_filter.mp among).1

theorem Declared.lists {h : Hierarchy} (declared : Declared h) : h.ListsAbstract := by
  induction declared with
  | standard => exact standard_lists
  | declare _ made ih => exact declare_lists ih made

theorem Declared.abstract_perm {h : Hierarchy} (declared : Declared h) (c : ClassId) :
    (h.abstractInOrder c).Perm (h.abstractOf c) := by
  obtain ⟨distinct, named⟩ := declared.lists c
  refine (List.perm_ext_iff_of_nodup ((h.namesInOrder_distinct c).filter _) distinct).mpr fun name => ?_
  simp only [List.mem_filter, List.contains_iff_mem]
  exact ⟨fun both => both.2, fun abstract => ⟨named abstract, abstract⟩⟩

theorem declareAll_declared {h : Hierarchy} {all : List ClassDecl} (declared : Declared h) (made : h.declareAll? all = some next) : Declared next := by
  induction all generalizing h with
  | nil =>
    cases made
    exact declared
  | cons d rest ih =>
    obtain ⟨first, one, more⟩ := Option.bind_eq_some_iff.mp made
    exact ih (declared.declare one) more

end Hierarchy

def daoClass (name : String) : ClassDecl :=
  { Hierarchy.plainClass "shop" name with
    attributes := [("init", .builder .immediate), ("init_async", .builder .awaited)] }

def receiver : ParameterDecl := ⟨"self", .positional, none, none⟩

def mapperClass (name : String) (methods : List (String × FunctionDecl)) : ClassDecl :=
  { Hierarchy.plainClass "shop" name with
    keepsAbstract := true
    attributes := methods.map fun (name, f) => (name, .function f true) }

def firstClass : ClassId := Hierarchy.standardClasses.length

def classesOf (all : List ClassDecl) : Hierarchy := (Hierarchy.standard.declareAll? all).getD Hierarchy.standard

theorem classesOf_declared (classes : List ClassDecl) : (classesOf classes).Declared := by
  unfold classesOf
  cases made : Hierarchy.standard.declareAll? classes with
  | none => exact .standard
  | some h => exact Hierarchy.declareAll_declared .standard made

end DaoMapper.Interface
