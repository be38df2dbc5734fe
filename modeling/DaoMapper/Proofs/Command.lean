import DaoMapper.Cli.Run
import DaoMapper.Cli.Terminal
import DaoMapper.Proofs.Accounting
import DaoMapper.Proofs.Saving
import DaoMapper.Yaml.Safe

-- How the command that generates a module ends: what it prints and what it writes, and
-- what its status says of the abstract methods.
namespace DaoMapper.Cli

open Execution (inClass)
open Files (Path Tree)
open Interface (Accounted ClassId Hierarchy classesOf classesOf_declared daoClass firstClass mapperClass receiver
  mapError_ok)
open Mapper (Generator Report overridden)

theorem Trouble.code_ne_zero (t : Trouble) : t.code ≠ 0 := by
  cases t <;> exact Nat.succ_ne_zero _

def Importer.Declares (importer : Importer) : Prop :=
  ∀ tree module m, importer tree module = .ok m → m.classes.Declared

theorem Importer.find_declared {importer : Importer} (declares : importer.Declares)
    (found : importer.find tree word = .ok (h, mapper)) : h.Declared := by
  unfold find at found
  split at found
  · rename_i target _
    obtain ⟨m, loaded, found⟩ := Interface.reading_ok found
    have known : m.classes.Declared := by
      unfold load at loaded
      split at loaded
      · cases loaded
      · split at loaded <;> cases loaded
        exact declares _ _ _ ‹_›
    split at found <;> cases found
    exact known
  · cases found

section

variable [Console]

theorem Outcome.ofTrouble_code (t : Trouble) : (Outcome.ofTrouble t).code ≠ 0 := by
  unfold Outcome.ofTrouble
  split
  · exact Nat.succ_ne_zero _
  · exact Trouble.code_ne_zero _
  · split
    · exact Trouble.code_ne_zero _
    · exact Nat.succ_ne_zero _

theorem Outcome.ofTrouble_output (t : Trouble) : (Outcome.ofTrouble t).output = "" := by
  unfold Outcome.ofTrouble
  split
  · rfl
  · rfl
  · split <;> rfl

end

namespace Workspace

theorem status_zero (report : Report) : status report = 0 ↔ report.errors = [] := by
  unfold status Report.errors
  cases Mapper.Diagnostic.errors report.diagnostics <;> simp

theorem overridden_all {h : Hierarchy} {m : Code.Module}
    (accounted : Accounted h mapper report m generated skipped)
    (spelled : ∀ name ∈ h.abstractOf mapper, inClass m.body.name name = name) :
    skipped = [] ↔ (∀ name ∈ h.abstractOf mapper, overridden m name) ∧ "__init__" ∉ skipped := by
  have exactly := accounted.overrides spelled
  constructor
  · intro nothing
    subst nothing
    refine ⟨fun name abstract => (exactly name).mpr (.inr ?_), List.not_mem_nil⟩
    simpa using accounted.all.mem_iff.mpr abstract
  · intro both
    obtain ⟨all, plain⟩ := both
    refine List.eq_nil_iff_forall_not_mem.mpr fun name left => ?_
    have abstract := accounted.all.subset (List.mem_append_right _ left)
    rcases (exactly name).mp (all name abstract) with rfl | made
    · exact plain left
    · exact (List.nodup_append.mp accounted.distinct).2.2 name made name left rfl

section

variable [Log.Library] {w next : Workspace} {ready : Ready}

theorem render_made (rendered : w.render ready = (report, .ok text, written, next)) :
    ∃ done, ready.classes.implement (.type ready.mapper) ready.config.generator .empty = (report, .ok done) ∧
      done.text = text := by
  unfold render at rendered
  cases made : ready.classes.implement (.type ready.mapper) ready.config.generator .empty with
  | mk first result =>
    simp only [made, Prod.mk.injEq] at rendered
    obtain ⟨rfl, result_ok, -⟩ := rendered
    cases result with
    | error f => cases result_ok
    | ok done =>
      cases result_ok
      exact ⟨done, rfl, rfl⟩

theorem render_of (w : Workspace)
    (made : ready.classes.implement (.type ready.mapper) ready.config.generator .empty = (report, .ok done)) :
    w.render ready = (report, .ok done.text, (w.note report.events).1, (w.note report.events).2) := by
  unfold render
  rw [made]
  rfl

def Opens (w next : Workspace) : Prop := w.sinks.Opens w.tree next.sinks next.tree

variable (keeps : Log.Library.KeepsFiles)

include keeps

theorem note_opens (w : Workspace) (events : List Log.Event) : w.Opens (w.note events).2 where
  kept := List.Subset.refl _
  same := by
    refine Tree.foldl_sameFiles _ (fun e _ now => ?_) (([] : List Log.Written), w.tree)
    exact w.sinks.emit_sameFiles keeps now.2 _

theorem configure_opens (w : Workspace) (r : Log.Request) : w.Opens (w.configure r).2 :=
  Log.Sinks.configure_opens keeps rfl

theorem render_opens (w : Workspace) (ready : Ready) : w.Opens (w.render ready).2.2.2 := note_opens keeps w _

variable [Yaml.Library]

theorem load_opens (w : Workspace) (config : Option Path) : w.Opens (w.load config).2.2 := by
  have opens := note_opens keeps w (w.store.load w.env w.tree config).1
  exact ⟨opens.kept, opens.same⟩

theorem prepare_opens (w : Workspace) (level : Option String) (target : String) (config : Option Path) :
    w.Opens (w.prepare level target config).2.2 := by
  have first := load_opens keeps w config
  unfold prepare
  split
  · rename_i loaded
    rw [loaded] at first
    exact first
  · rename_i c written middle loaded
    rw [loaded] at first
    have second := first.trans (configure_opens keeps middle (Log.requestFor c.logging (level.map .text)))
    split <;> (rename_i configured; rw [configured] at second)
    · exact second
    · split <;> exact second

end

section

variable [Log.Library] [Yaml.Library] {w before after next : Workspace} {ready : Ready}

theorem prepare_declared (declares : w.importer.Declares)
    (prepared : w.prepare level target config = (.ok ready, written, next)) : ready.classes.Declared := by
  have same : (w.load config).2.2.importer = w.importer := rfl
  unfold prepare at prepared
  split at prepared
  · cases prepared
  · rename_i c _ middle loaded
    rw [loaded] at same
    have kept : (middle.configure (Log.requestFor c.logging (level.map .text))).2.importer = w.importer := same
    split at prepared <;> (rename_i configured; rw [configured] at kept)
    · cases prepared
    · split at prepared <;> cases prepared
      rename_i found
      exact Importer.find_declared (kept ▸ declares) found

def heard (w : Workspace) (level : Option String) (target : String) (config : Option Path) : List Log.Written :=
  match w.prepare level target config with
  | (.error _, written, _) => written
  | (.ok ready, written, w) => written ++ (w.render ready).2.2.1

-- Settings, log and class are there, and the class can be implemented.
def Renders (w : Workspace) (level : Option String) (target : String) (config : Option Path) (ready : Ready) : Prop :=
  (w.prepare level target config).1.toOption = some ready ∧
    (ready.classes.implement (.type ready.mapper) ready.config.generator .empty).2.isOk = true

variable [Console] {level : Option String} {target : String} {config : Option Path}

-- A command that stops before there is a module: it would with any output file, shows
-- nothing but what the log shows, and leaves all files but those of the log.
structure Stopped (w : Workspace) (level : Option String) (target : String) (config : Option Path) (o : Outcome)
    (after : Workspace) : Prop where
  ends : ∀ output, w.generate level target output config = (o, after)
  code : o.code ≠ 0
  output : o.output = logOutput (w.heard level target config)
  files : Tree.SameFiles after.sinks.files w.tree after.tree

-- A module that is handed over: what is printed without an output file, on a terminal in
-- colours, is what the output file holds. It holds it whoever is told of it.
structure Delivered (w : Workspace) (level : Option String) (target : String) (config : Option Path) (code : Nat)
    (text : String) (lines : List String) (after : Workspace) : Prop where
  printed : Console.isTerminal = false → Console.echo text = .ok () →
    w.generate level target none config =
      (⟨code, logOutput (w.heard level target config) ++ text, logErrors (w.heard level target config) ++ lines, none⟩,
        after)
  highlighted : Console.isTerminal = true → ∀ shown, Console.highlight text = .ok shown →
    w.generate level target none config =
      (⟨code, logOutput (w.heard level target config) ++ shown, logErrors (w.heard level target config) ++ lines, none⟩,
        after)
  saved : ∀ p tree, after.tree.save p text = (.ok (), tree) →
    tree.read p = .ok text ∧ (w.generate level target (some p) config).2 = { after with tree }
  told : ∀ p tree line, after.tree.save p text = (.ok (), tree) → wroteLine p = .ok line →
    (w.generate level target (some p) config).1 =
      ⟨code, logOutput (w.heard level target config), logErrors (w.heard level target config) ++ (lines ++ [line]), none⟩
  unsaved : ∀ p f tree, after.tree.save p text = (.error f, tree) →
    ∃ o, w.generate level target (some p) config = (o, { after with tree }) ∧ o.code ≠ 0 ∧
      o.output = logOutput (w.heard level target config)

-- If its problems can be shown, the status counts what was skipped.
structure Rendered (w : Workspace) (level : Option String) (target : String) (config : Option Path) (ready : Ready)
    (g : Generator) (m : Code.Module) (after : Workspace) : Prop where
  accounted : Accounted ready.classes ready.mapper g.draft.report m g.draft.generated g.draft.skipped
  delivered : ∀ lines, diagnosticLines g.draft.report = .ok lines →
    Delivered w level target config (status g.draft.report) (g.text m) lines after
  unshown : ∀ t, diagnosticLines g.draft.report = .error t →
    ∃ o, (∀ output, w.generate level target output config = (o, after)) ∧ o.code ≠ 0 ∧
      o.output = logOutput (w.heard level target config)
  complete : status g.draft.report = 0 ↔ g.draft.skipped = []
  overrides : (∀ name ∈ ready.classes.abstractOf ready.mapper, inClass m.body.name name = name) →
    (status g.draft.report = 0 ↔
      (∀ name ∈ ready.classes.abstractOf ready.mapper, overridden m name) ∧ "__init__" ∉ g.draft.skipped)

theorem stopped_unless (keeps : Log.Library.KeepsFiles) (w : Workspace) (level : Option String) (target : String)
    (config : Option Path) (never : ∀ ready, ¬ w.Renders level target config ready) :
    ∃ o after, Stopped w level target config o after := by
  have files := prepare_opens keeps w level target config
  cases prepared : w.prepare level target config with
  | mk first rest =>
    obtain ⟨written, before⟩ := rest
    rw [prepared] at files
    have troubled (t : Trouble) (all : List Log.Written) :
        ((Outcome.ofTrouble t).after all).output = logOutput all := by
      rw [Outcome.after, Outcome.ofTrouble_output, String.append_empty]
    cases first with
    | error t =>
      refine ⟨(Outcome.ofTrouble t).after written, before, ?_, Outcome.ofTrouble_code t, ?_, files.same⟩
      · intro output
        rw [generate, prepared]
      · rw [troubled, heard, prepared]
    | ok ready =>
      have opens := files.trans (render_opens keeps before ready)
      cases rendered : before.render ready with
      | mk report rest =>
        obtain ⟨result, more, after⟩ := rest
        rw [rendered] at opens
        cases result with
        | error t =>
          refine ⟨(Outcome.ofTrouble t).after (written ++ more), after, ?_, Outcome.ofTrouble_code t, ?_, opens.same⟩
          · intro output
            rw [generate, prepared]
            simp only [rendered]
          · rw [troubled, heard, prepared]
            simp only [rendered]
        | ok text =>
          obtain ⟨done, made, -⟩ := render_made rendered
          refine absurd ⟨?_, ?_⟩ (never ready)
          · rw [prepared]
            rfl
          · rw [made]
            rfl

section

variable (prepared : w.prepare level target config = (.ok ready, written, before))
  (rendered : before.render ready = (report, .ok text, more, after))

include prepared rendered

theorem generate_finish (output : Option Path) :
    w.generate level target output config =
      ((after.finish report output text).1.after (w.heard level target config), (after.finish report output text).2) := by
  rw [generate, heard, prepared]
  simp only [rendered]

theorem delivered_of (shown : diagnosticLines report = .ok lines) :
    Delivered w level target config (status report) text lines after := by
  have ends (output : Option Path) := generate_finish prepared rendered output
  simp only [finish, shown] at ends
  constructor
  · intro piped echoed
    have shown : display text = .ok text := by simp [display, piped, echoed, Except.map, Except.mapError]
    rw [ends none]
    simp only [deliver, shown, Except.map, Outcome.after, List.append_nil]
  · intro terminal colored highlighted
    have shown : display text = .ok colored := by simp [display, terminal, highlighted, Except.mapError]
    rw [ends none]
    simp only [deliver, shown, Except.map, Outcome.after, List.append_nil]
  · intro p tree saved
    refine ⟨Tree.save_read saved, ?_⟩
    rw [ends (some p)]
    simp only [deliver, saved]
    cases wroteLine p <;> rfl
  · intro p tree line saved wrote
    rw [ends (some p)]
    simp only [deliver, saved, wrote, Except.map, Outcome.after, String.append_empty]
  · intro p f tree unsaved
    have ending := ends (some p)
    simp only [deliver, unsaved] at ending
    exact ⟨_, ending, (Trouble.file f).code_ne_zero, String.append_empty⟩

theorem unshown_of (unshown : diagnosticLines report = .error t) :
    ∃ o, (∀ output, w.generate level target output config = (o, after)) ∧ o.code ≠ 0 ∧
      o.output = logOutput (w.heard level target config) := by
  refine ⟨(Outcome.broken t).after (w.heard level target config), ?_, t.code_ne_zero, String.append_empty⟩
  intro output
  rw [generate_finish prepared rendered, finish, unshown]

end

theorem rendered_of (declares : w.importer.Declares) (renders : w.Renders level target config ready) :
    ∃ scanned d g m after,
      ready.classes.scan (.type ready.mapper) .empty = (scanned, .ok d) ∧
      (Generator.new d ready.config.generator scanned).generate = (g, .ok m) ∧
      Rendered w level target config ready g m after := by
  obtain ⟨prepares, implements⟩ := renders
  cases prepared : w.prepare level target config with
  | mk first rest =>
    obtain ⟨written, before⟩ := rest
    rw [prepared] at prepares
    cases first with
    | error t => cases prepares
    | ok asked =>
      cases prepares
      have known := prepare_declared declares prepared
      cases made : ready.classes.implement (.type ready.mapper) ready.config.generator .empty with
      | mk report result =>
        rw [made] at implements
        cases result with
        | error f => cases implements
        | ok done =>
          obtain ⟨scanned, g, read, ran, rfl, text, accounted⟩ := Interface.implement_accounts known made
          have rendered := render_of before made
          rw [text] at rendered
          have complete : status g.draft.report = 0 ↔ g.draft.skipped = [] := by
            rw [status_zero, ← List.length_eq_zero_iff, accounted.errors, List.length_eq_zero_iff]
          refine ⟨scanned, done.declaration, g, done.module, (before.note g.draft.report.events).2, read, ran,
            accounted, ?_, ?_, complete, ?_⟩
          · exact fun lines shown => delivered_of prepared rendered shown
          · exact fun t unshown => unshown_of prepared rendered unshown
          · exact fun spelled => complete.trans (overridden_all accounted spelled)

end

section

open scoped Log.Loguru Terminal Yaml.Safe

def shopImporter (classes : List Interface.ClassDecl) : Importer := fun _ module =>
  if module = "shop" then .ok {
    classes := classesOf classes
    find := fun
      | [name] => ((classesOf classes).classAt? module name).elim (.error .missing) (.ok ∘ some)
      | _ => .error .missing }
  else .error (.missing ("No module named '" ++ module ++ "'"))

theorem shopImporter_declares (classes : List Interface.ClassDecl) : (shopImporter classes).Declares := by
  intro tree module m imported
  unfold shopImporter at imported
  split at imported <;> cases imported
  exact classesOf_declared classes

def shopAt (tree : Tree) (classes : List Interface.ClassDecl) : Workspace :=
  ⟨tree, ⟨[]⟩, .empty, ⟨.bare "" "", [], none⟩, shopImporter classes⟩

def founder : List Interface.ClassDecl :=
  [daoClass "A", mapperClass "M" [
    ("__init__", ⟨[receiver], none, none⟩), ("a", ⟨[receiver], some (.cls firstClass), none⟩)]]

-- The generated class renames this member, the mapper's own class does not.
def underscored : List Interface.ClassDecl :=
  [daoClass "A", mapperClass "_" [("__x", ⟨[receiver], some (.cls firstClass), none⟩)]]

def plain : List Interface.ClassDecl :=
  [daoClass "A", mapperClass "M" [("a", ⟨[receiver], some (.cls firstClass), none⟩)]]

def overridesAll (classes : List Interface.ClassDecl) : Option Bool :=
  let mapper := firstClass + 1
  ((classesOf classes).implement (.type mapper) .default .empty).2.toOption.map fun done =>
    decide (∀ name ∈ (classesOf classes).abstractOf mapper, overridden done.module name)

-- The log may go where the module would go.
def logged : Tree := ⟨[(["c.yaml"], .file "kind: Config\nspec:\n  logging:\n    output_file: m.py\n")], []⟩

end

end Workspace

end DaoMapper.Cli
