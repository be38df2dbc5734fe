import DaoMapper.Log.Loguru
import DaoMapper.Proofs.Scanned

-- What becomes of files: a text that was saved is what is read, and the log writes to
-- its own files and nowhere else.
namespace DaoMapper.Files.Tree

open Interface (reading_ok)

variable {t next : Tree} {place wanted : List String} {e : Entry} {text : String}

theorem put_same (t : Tree) (inside : place ≠ []) (e : Entry) : (t.put place e).at? place = some e := by
  have none : (t.entries.filter (·.1 ≠ place)).find? (·.1 = place) = none := by
    refine List.find?_eq_none.mpr fun entry among => ?_
    simpa using (List.mem_filter.mp among).2
  rw [at?, if_neg (by simpa using inside), put, List.find?_append, none]
  simp

theorem put_other (t : Tree) (other : wanted ≠ place) (e : Entry) : (t.put place e).at? wanted = t.at? wanted := by
  have kept : (t.entries.filter (·.1 ≠ place)).find? (·.1 = wanted) = t.entries.find? (·.1 = wanted) := by
    rw [List.find?_filter]
    congr
    funext entry
    by_cases found : entry.1 = wanted <;> simp [found, other]
  unfold at? put
  rw [List.find?_append, kept]
  simp [Ne.symm other]

def SameFiles (places : List (List String)) (before after : Tree) : Prop :=
  ∀ place ∉ places, ∀ text, after.at? place = some (.file text) ↔ before.at? place = some (.file text)

theorem SameFiles.refl (places : List (List String)) (t : Tree) : SameFiles places t t := fun _ _ _ => Iff.rfl

theorem SameFiles.trans (first : SameFiles places t middle) (second : SameFiles places middle next) :
    SameFiles places t next :=
  fun place outside text => (second place outside text).trans (first place outside text)

theorem SameFiles.mono (same : SameFiles places t next) (more : places ⊆ others) : SameFiles others t next :=
  fun place outside => same place fun among => outside (more among)

theorem put_sameFiles (t : Tree) (place : List String) (e : Entry) : SameFiles [place] t (t.put place e) := by
  intro other outside text
  rw [put_other t (by simpa using outside)]

theorem foldl_sameFiles {α β : Type} {all : List α} (step : β × Tree → α → β × Tree)
    (each : ∀ a ∈ all, ∀ now, SameFiles places now.2 (step now a).2) (now : β × Tree) :
    SameFiles places now.2 (all.foldl step now).2 := by
  induction all generalizing now with
  | nil => exact .refl _ _
  | cons a rest ih =>
    exact (each a List.mem_cons_self now).trans (ih (fun b among => each b (List.mem_cons_of_mem _ among)) _)

theorem makeFrom_sameFiles (t : Tree) (making : Bool) (place parts : List String) :
    SameFiles [] t (t.makeFrom making place parts).2 := by
  induction parts generalizing t making place with
  | nil => exact .refl _ _
  | cons part rest ih =>
    unfold makeFrom
    dsimp only
    split
    · exact ih _ _ _
    · exact .refl _ _
    · rename_i missing
      refine SameFiles.trans ?_ (ih _ _ _)
      intro other _ text
      by_cases here : other = step place part
      · subst here
        have inside : step place part ≠ [] := by
          intro root
          simp [at?, root] at missing
        simp [put_same t inside, missing]
      · rw [put_other t here]

theorem makeDirectory_sameFiles (t : Tree) (p : Path) : SameFiles [] t (t.makeDirectory p).2 :=
  makeFrom_sameFiles _ _ _ _

theorem put_beside (there : t.at? place = some .directory) (free : t.at? target ≠ some .directory) (e : Entry) :
    (t.put target e).at? place = some .directory := by
  have apart : place ≠ target := by
    intro same
    rw [same] at there
    exact free there
  rw [put_other t apart, there]

theorem walk_down (there : t.at? place = some .directory) (part : String) (rest : List String) :
    t.walk place (part :: rest) = t.walk (step place part) rest := by
  rw [walk, there]

-- One goes through directories only, so a file that is put beside them is not in the way.
theorem walk_put {parts : List String} (goes : t.walk place parts = .ok goal) (arrives : t.at? goal = some .directory)
    (free : t.at? target ≠ some .directory) (e : Entry) : (t.put target e).walk place parts = .ok goal := by
  have apart {place : List String} (there : t.at? place = some .directory) :
      (t.put target e).at? place = some .directory := put_beside there free e
  induction parts generalizing place with
  | nil =>
    unfold walk at goes ⊢
    split at goes
    · cases goes
      rw [apart arrives]
    · cases goes
  | cons part rest ih =>
    unfold walk at goes ⊢
    split at goes
    · rename_i there
      rw [apart there]
      exact ih goes
    · cases goes
    · cases goes

theorem walk_concat {parts : List String} (goes : t.walk place parts = .ok goal)
    (arrives : t.at? goal = some .directory) (name : String) :
    t.walk place (parts ++ [name]) = t.walk (step goal name) [] := by
  induction parts generalizing place with
  | nil =>
    have same : place = goal := by
      unfold walk at goes
      split at goes <;> cases goes
      rfl
    subst same
    exact walk_down arrives name []
  | cons part rest ih =>
    unfold walk at goes
    split at goes
    · rename_i there
      exact (walk_down there part (rest ++ [name])).trans (ih goes)
    · cases goes
    · cases goes

theorem write_read {p : Path} (written : t.write p text = .ok next) : next.read p = .ok text := by
  unfold write at written
  split at written
  · rename_i name last
    obtain ⟨goal, goes, written⟩ := reading_ok written
    dsimp only at written
    split at written
    · rename_i arrives
      split at written
      · cases written
      · rename_i free
        cases written
        have inside : step goal name ≠ [] := by
          intro root
          exact free (by rw [root]; rfl)
        have held : (t.put (step goal name) (.file text)).at? (step goal name) = some (.file text) :=
          put_same t inside _
        have parts : p.parts = p.parent.parts ++ [name] := (List.dropLast_append_getLast? name last).symm
        have way : (t.put (step goal name) (.file text)).resolve p = .ok (step goal name) := by
          have through := walk_concat (walk_put goes arrives free (.file text)) (put_beside arrives free _) name
          rw [resolve, parts]
          refine through.trans ?_
          rw [walk, held]
        simp only [read, way, bind, Except.bind, held]
        rfl
    · cases written
  · cases written

theorem save_read {p : Path} (saved : t.save p text = (.ok (), next)) : next.read p = .ok text := by
  unfold save at saved
  split at saved
  · cases saved
  · split at saved
    · cases saved
    · rename_i written
      cases saved
      exact write_read written

end DaoMapper.Files.Tree

namespace DaoMapper.Log

open Files (Tree)

-- The files that were opened are remembered, and no others are written.
structure Library.KeepsFiles [Library] : Prop where
  added : ∀ {s : Library.State} {tree t level result next after},
    Library.add s tree t level = (result, next, after) →
      Library.files s ⊆ Library.files next ∧ Tree.SameFiles (Library.files next) tree after
  removed : ∀ (s : Library.State) (n : Nat), Library.files (Library.remove s n) = Library.files s
  emitted : ∀ (s : Library.State) (tree : Tree) (r : Record),
    Tree.SameFiles (Library.files s) tree (Library.emit s tree r).2

namespace Sinks

section

variable [Library]

def files (s : Sinks) : List (List String) := Library.files s.library

structure Opens (s : Sinks) (tree : Tree) (next : Sinks) (after : Tree) : Prop where
  kept : s.files ⊆ next.files
  same : Tree.SameFiles next.files tree after

theorem Opens.refl (s : Sinks) (tree : Tree) : s.Opens tree s tree := ⟨List.Subset.refl _, .refl _ _⟩

theorem Opens.trans {s next last : Sinks} {tree middle after : Tree} (first : s.Opens tree next middle)
    (second : next.Opens middle last after) : s.Opens tree last after :=
  ⟨List.Subset.trans first.kept second.kept, (first.same.mono second.kept).trans second.same⟩

variable (keeps : Library.KeepsFiles) {s next : Sinks} {tree after : Tree} {r : Request}

include keeps

theorem remove_files (s : Sinks) (n : Nat) : (s.remove n).files = s.files := keeps.removed _ _

theorem removeOwn_files (s : Sinks) : s.removeOwn.files = s.files := by
  unfold removeOwn files
  dsimp only
  generalize s.own = own, s.library = library
  induction own generalizing library with
  | nil => rfl
  | cons n rest ih => rw [List.foldl_cons, ih, keeps.removed]

theorem withoutInitial_files (s : Sinks) : s.withoutInitial.files = s.files := by
  unfold withoutInitial
  split
  · exact remove_files keeps _ _
  · rfl

theorem add_opens (added : s.add tree t level blame = (result, next, after)) : s.Opens tree next after := by
  unfold add at added
  split at added <;> (rename_i called; cases added; exact ⟨(keeps.added called).1, (keeps.added called).2⟩)

theorem addFile_opens (added : s.addFile tree r = (result, next, after)) : s.Opens tree next after := by
  unfold addFile at added
  split at added
  · rename_i name _
    dsimp only at added
    have made := tree.makeDirectory_sameFiles (Files.Path.ofText name).parent
    split at added
    · rename_i stopped
      cases added
      rw [stopped] at made
      exact ⟨List.Subset.refl _, made.mono (List.nil_subset _)⟩
    · rename_i middle done
      rw [done] at made
      have opens : s.Opens tree s middle := ⟨List.Subset.refl _, made.mono (List.nil_subset _)⟩
      exact opens.trans (add_opens keeps added)
  · cases added
    exact .refl _ _

theorem replace_opens (replaced : s.replace tree r = (result, next, after)) : s.Opens tree next after := by
  have cleared : s.Opens tree s.withoutInitial.removeOwn tree := by
    refine ⟨?_, .refl _ _⟩
    rw [removeOwn_files keeps, withoutInitial_files keeps]
    exact List.Subset.refl _
  unfold replace at replaced
  split at replaced
  · rename_i stopped
    cases replaced
    exact cleared.trans (add_opens keeps stopped)
  · rename_i terminal middle put
    have shown := cleared.trans (add_opens keeps put)
    split at replaced
    rename_i outcome last filled filed
    have opens : s.Opens tree last filled := by
      split at filed
      · exact shown.trans (addFile_opens keeps filed)
      · cases filed
        exact shown
    split at replaced <;> cases replaced <;> exact ⟨opens.kept, opens.same⟩

theorem configure_opens (configured : s.configure tree r = (result, next, after)) : s.Opens tree next after := by
  unfold configure at configured
  split at configured
  · cases configured
    exact .refl _ _
  · exact replace_opens keeps configured

theorem emit_sameFiles (s : Sinks) (tree : Tree) (r : Record) : Tree.SameFiles s.files tree (s.emit tree r).2 :=
  keeps.emitted _ _ _

end

end Sinks

namespace Loguru

theorem openFile_sameFiles (time : String) (tree : Tree) (path : Files.Path) :
    Tree.SameFiles (openFile time tree path).1.toOption.toList tree (openFile time tree path).2 := by
  unfold openFile
  split
  · exact .refl _ _
  · rename_i name _
    dsimp only
    generalize (Files.Path.ofText name).parts.foldl Tree.step (tree.start (Files.Path.ofText name)) = place
    have made := tree.makeDirectory_sameFiles ⟨1, place.dropLast⟩
    split
    · rename_i stopped
      rw [stopped] at made
      exact made
    · rename_i middle done
      rw [done] at made
      split
      · exact made
      · exact made.mono (List.nil_subset _)
      · exact (made.mono (List.nil_subset _)).trans (Tree.put_sameFiles _ _ _)

theorem openFor_sameFiles (time : String) (tree : Tree) (t : Target) :
    Tree.SameFiles ((openFor time tree t).1.toOption.getD none).toList tree (openFor time tree t).2 := by
  cases t with
  | terminal | foreign => exact .refl _ _
  | file path =>
    have same := openFile_sameFiles time tree path
    cases called : openFile time tree path with
    | mk opened after =>
      rw [called] at same
      rw [openFor, called]
      cases opened <;> exact same

theorem append_sameFiles (tree : Tree) (place : Option (List String)) (line : String) :
    Tree.SameFiles place.toList tree (append tree place line) := by
  unfold append
  split
  · exact .refl _ _
  · split
    · exact Tree.put_sameFiles _ _ _
    · exact .refl _ _

theorem emit_sameFiles (s : State) (tree : Tree) (r : Record) : Tree.SameFiles s.opened tree (emit s tree r).2 := by
  refine Tree.foldl_sameFiles _ (fun h among now => ?_) ([], tree)
  have there : h ∈ s.handlers := (List.mem_filter.mp among).1
  have known : h.place.toList ⊆ s.opened := by
    intro place held
    exact s.known h there place (Option.mem_toList.mp held)
  cases h.sink.target with
  | terminal | foreign => exact .refl _ _
  | file path => exact (append_sameFiles _ _ _).mono known

theorem add_sameFiles (added : add s tree t level = (result, next, after)) :
    s.opened ⊆ next.opened ∧ Tree.SameFiles next.opened tree after := by
  have same := openFor_sameFiles s.time tree t
  unfold add at added
  split at added
  rename_i opened middle done
  rw [done] at same
  split at added <;> cases added
  · exact ⟨List.Subset.refl _, same.mono (List.nil_subset _)⟩
  · exact ⟨List.subset_append_right _ _, same.mono (List.subset_append_left _ _)⟩
  · exact ⟨List.subset_append_right _ _, same.mono (List.subset_append_left _ _)⟩

theorem keepsFiles : Library.KeepsFiles where
  added := add_sameFiles
  removed _ _ := rfl
  emitted := emit_sameFiles

end Loguru

end DaoMapper.Log
