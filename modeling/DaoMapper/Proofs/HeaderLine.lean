import DaoMapper.Proofs.Layers
import DaoMapper.Proofs.Retrying
import DaoMapper.Proofs.Service

-- The comment at the head of a module, as a reader of source finds it: how far the header
-- reaches, and what of a module depends on it.
namespace DaoMapper.Text

-- The lines of a source text. Only a line feed, a carriage return and the pair end one.
def sourceLines : List Char → List (List Char)
  | [] => []
  | '\x0d' :: '\n' :: rest => [] :: sourceLines rest
  | c :: rest =>
    if c = '\n' ∨ c = '\x0d' then [] :: sourceLines rest
    else (c :: (sourceLines rest).headD []) :: (sourceLines rest).tail

theorem sourceLines_feed (rest : List Char) : sourceLines ('\n' :: rest) = [] :: sourceLines rest := by
  rw [sourceLines]
  · rfl
  · intro _ pair
    cases pair

theorem sourceLines_pair (rest : List Char) : sourceLines ('\x0d' :: '\n' :: rest) = [] :: sourceLines rest := by
  rw [sourceLines]

theorem sourceLines_return {rest : List Char} (alone : rest.head? ≠ some '\n') :
    sourceLines ('\x0d' :: rest) = [] :: sourceLines rest := by
  rw [sourceLines]
  · rfl
  · intro _ same behind
    exact alone (by rw [behind]; rfl)

theorem sourceLines_within {c : Char} (feed : c ≠ '\n') (back : c ≠ '\x0d') (rest : List Char) :
    sourceLines (c :: rest) = (c :: (sourceLines rest).headD []) :: (sourceLines rest).tail := by
  rw [sourceLines, if_neg (by simp [feed, back])]
  intro _ same
  exact absurd same back

theorem sourceLines_ne_nil {cs : List Char} (nonempty : cs ≠ []) : sourceLines cs ≠ [] := by
  unfold sourceLines
  split
  · exact absurd rfl nonempty
  · exact List.cons_ne_nil _ _
  · split <;> exact List.cons_ne_nil _ _

-- A line feed parts a text, wherever it is: of a pair it is the half that comes last.
theorem sourceLines_parted (before behind : List Char) :
    sourceLines (before ++ '\n' :: behind) = sourceLines (before ++ ['\n']) ++ sourceLines behind := by
  induction before using sourceLines.induct with
  | case1 => rw [List.nil_append, List.nil_append, sourceLines_feed, sourceLines_feed, sourceLines, List.singleton_append]
  | case2 rest ih =>
    simp only [List.cons_append]
    rw [sourceLines_pair, sourceLines_pair, ih, List.cons_append]
  | case3 c rest unpaired ends ih =>
    simp only [List.cons_append]
    rcases ends with rfl | rfl
    · rw [sourceLines_feed, sourceLines_feed, ih, List.cons_append]
    · cases rest with
      | nil =>
        rw [List.nil_append, List.nil_append, sourceLines_pair, sourceLines_pair, sourceLines, List.singleton_append]
      | cons d rest =>
        have alone : d ≠ '\n' := fun same => unpaired rest rfl (by rw [same])
        rw [sourceLines_return (by simpa using alone), sourceLines_return (by simpa using alone), ih]
        rfl
  | case4 c rest _ within ih =>
    obtain ⟨feed, back⟩ := not_or.mp within
    have first : sourceLines (rest ++ ['\n']) ≠ [] := sourceLines_ne_nil (by simp)
    simp only [List.cons_append]
    rw [sourceLines_within feed back, sourceLines_within feed back, ih, List.cons_append,
      List.tail_append_of_ne_nil first]
    cases lines : sourceLines (rest ++ ['\n']) with
    | nil => exact absurd lines first
    | cons line more => rfl

theorem sourceLines_upTo {before rest : List Char} (feed : '\n' ∉ before) (back : '\x0d' ∉ before)
    (ends : sourceLines rest = [] :: more) : sourceLines (before ++ rest) = before :: more := by
  induction before with
  | nil => rwa [List.nil_append]
  | cons c before ih =>
    obtain ⟨one, feed⟩ := List.ne_and_not_mem_of_not_mem_cons feed
    obtain ⟨two, back⟩ := List.ne_and_not_mem_of_not_mem_cons back
    rw [List.cons_append, sourceLines_within one.symm two.symm, ih feed back]
    rfl

section line

variable {line before after : List Char}

theorem sourceLines_returned (feed : '\n' ∉ before) (back : '\x0d' ∉ before) (unfed : '\n' ∉ after) :
    sourceLines (before ++ '\x0d' :: after ++ ['\n']) =
      before :: if after = [] then [] else sourceLines (after ++ ['\n']) := by
  rw [List.append_assoc, List.cons_append]
  apply sourceLines_upTo feed back
  cases after with
  | nil => rfl
  | cons d after =>
    have other : d ≠ '\n' := (List.ne_and_not_mem_of_not_mem_cons unfed).1.symm
    rw [sourceLines_return (by simpa using other), if_neg (List.cons_ne_nil _ _)]

-- What is meant as one line is read as one up to its first carriage return, and is
-- followed by nothing unless there is something behind that one.
theorem sourceLines_fed (feed : '\n' ∉ line) :
    ((sourceLines (line ++ ['\n'])).head? = some line ↔ '\x0d' ∉ line) ∧
      ((sourceLines (line ++ ['\n'])).tail = [] ↔ '\x0d' ∉ line.dropLast) := by
  by_cases back : '\x0d' ∈ line
  · obtain ⟨before, after, rfl, first⟩ := List.eq_append_cons_of_mem back
    rw [List.mem_append, List.mem_cons, not_or, not_or] at feed
    obtain ⟨unfed, -, further⟩ := feed
    rw [sourceLines_returned unfed first further, List.head?_cons, List.tail_cons]
    constructor
    · simp
    · cases after with
      | nil => simp [first]
      | cons d after => simp [sourceLines_ne_nil]
  · have whole : sourceLines (line ++ ['\n']) = [line] := sourceLines_upTo feed back (sourceLines_feed [])
    have shorter : '\x0d' ∉ line.dropLast := fun among => back (List.mem_of_mem_dropLast among)
    simp [whole, back, shorter]

end line

end DaoMapper.Text

namespace DaoMapper.Mapper

open Code
open Text (sourceLines)

def Generator.headed (g : Generator) (header : Value) : Generator :=
  { g with settings := { g.settings with headerComment := header } }

section headed

variable (d : Draft) (declaration : Declaration) (settings : Settings.Generator) (g : Generator) (header : Value)

theorem methods_headed (declared : List FactoryMethod) :
    d.methods { settings with headerComment := header } declared = d.methods settings declared := by
  induction declared generalizing d with
  | nil => rfl
  | cons m rest ih =>
    have step (e : Draft) (p : Plan) : e.add { settings with headerComment := header } p = e.add settings p := rfl
    unfold Draft.methods
    simp only [ih, step]

theorem run_headed :
    d.run declaration { settings with headerComment := header } = d.run declaration settings := by
  unfold Draft.run
  simp only [methods_headed]
  rfl

theorem generate_headed : (g.headed header).generate = (g.generate.1.headed header, g.generate.2) := by
  cases kept : g.built with
  | some m => simp only [Generator.generate, Generator.headed, kept]
  | none =>
    cases ran : g.draft.run g.declaration g.settings with
    | mk next result => cases result <;> simp only [Generator.generate, Generator.headed, kept, run_headed, ran]

theorem generate_settings : g.generate.1.settings = g.settings := by
  unfold Generator.generate
  split
  · rfl
  · split <;> rfl

theorem after_headed (n : Nat) : (g.headed header).after n = (g.after n).headed header := by
  induction n generalizing g with
  | zero => rfl
  | succ n ih =>
    have step : (g.headed header).render.1 = g.render.1.headed header := by
      simp only [Generator.render, generate_headed]
    rw [Generator.after, Generator.after, step, ih]

theorem render_text : g.render.2 = g.generate.2.map g.text := by
  have same (m : Module) : g.generate.1.text m = g.text m := by
    rw [Generator.text, Generator.text, generate_settings]
  simp only [Generator.render, funext same]

end headed

def comment (header : String) : List Char := '#' :: ' ' :: header.toList

theorem text_lines {g : Generator} (held : g.settings.headerComment = .text header) (m : Module) :
    sourceLines (g.text m).toList =
      sourceLines (comment header ++ ['\n']) ++ sourceLines (m.text.toList ++ ['\n']) := by
  rw [← Text.sourceLines_parted]
  simp [Generator.text, held, Value.plain, comment]

theorem comment_lines {header : String} (unfed : '\n' ∉ header.toList) (rest : List (List Char)) :
    ((sourceLines (comment header ++ ['\n']) ++ rest).head? = some (comment header) ↔ '\x0d' ∉ header.toList) ∧
      ((sourceLines (comment header ++ ['\n']) ++ rest).tail = rest ↔ '\x0d' ∉ header.toList.dropLast) := by
  have nonempty : sourceLines (comment header ++ ['\n']) ≠ [] := Text.sourceLines_ne_nil (by simp)
  have unfed : '\n' ∉ comment header := by simpa [comment] using unfed
  obtain ⟨first, further⟩ := Text.sourceLines_fed unfed
  rw [List.head?_append_of_ne_nil _ nonempty, List.tail_append_of_ne_nil nonempty, List.append_left_eq_self, first, further]
  constructor
  · simp [comment]
  · cases chars : header.toList with
    | nil => simp [comment, chars]
    | cons c cs => simp [comment, chars]

-- Where a module is made for one header it is made for each one that is accepted, and the
-- rest of it stays. A header is one line exactly if it has no carriage return, and it is
-- nothing but that line if it has none before its last character.
theorem header_line_iff {fieldSuffix implementationSuffix contextAttribute : Value}
    (accepted : Settings.Generator.check fieldSuffix implementationSuffix contextAttribute (.text header) = .ok settings)
    (rendered : ((Generator.new d settings report).after n).render.2 = .ok text) :
    ∃ rest, ∀ other changed,
      Settings.Generator.check fieldSuffix implementationSuffix contextAttribute (.text other) = .ok changed →
      ∃ text', ((Generator.new d changed report).after n).render.2 = .ok text' ∧
        sourceLines text'.toList = sourceLines (comment other ++ ['\n']) ++ rest ∧
        ((sourceLines text'.toList).head? = some (comment other) ↔ '\x0d' ∉ other.toList) ∧
        ((sourceLines text'.toList).tail = rest ↔ '\x0d' ∉ other.toList.dropLast) := by
  obtain ⟨_, _, name, named, _, _, rfl⟩ := Settings.check_ok_iff.mp accepted
  rw [render_text] at rendered
  cases made : ((Generator.new d ⟨fieldSuffix, implementationSuffix, name, .text header⟩ report).after n).generate.2 with
  | error r =>
    rw [made] at rendered
    cases rendered
  | ok m =>
    refine ⟨sourceLines (m.text.toList ++ ['\n']), ?_⟩
    intro other changed accepted'
    obtain ⟨_, _, name', named', _, unfed, rfl⟩ := Settings.check_ok_iff.mp accepted'
    obtain rfl : name = name' := by
      rw [named] at named'
      injection named'
    have moved : (Generator.new d ⟨fieldSuffix, implementationSuffix, name, .text other⟩ report).after n =
        ((Generator.new d ⟨fieldSuffix, implementationSuffix, name, .text header⟩ report).after n).headed (.text other) :=
      after_headed (Generator.new d ⟨fieldSuffix, implementationSuffix, name, .text header⟩ report) (.text other) n
    have unfed : '\n' ∉ other.toList := by simpa [Settings.hasLineFeed?] using unfed
    rw [moved, render_text, generate_headed, made]
    refine ⟨_, rfl, ?_⟩
    rw [text_lines rfl]
    exact ⟨rfl, comment_lines unfed _⟩

theorem shop_headed :
    ∃ text text' : String, (Generator.new shop .default .empty).render.2 = .ok text ∧
      (Generator.new shop { Settings.Generator.default with headerComment := .text "shop" } .empty).render.2 = .ok text' ∧
      (sourceLines text.toList).head? = some "# Generated by daogen. Do not edit.".toList ∧
      (sourceLines text'.toList).head? = some "# shop".toList ∧
      (sourceLines text.toList).tail = (sourceLines text'.toList).tail := by
  obtain ⟨g, m, done⟩ := shop_generated
  have rendered : ((Generator.new shop .default .empty).after 0).render.2 =
      .ok ((Generator.new shop .default .empty).text m) := by
    rw [render_text, Generator.after, done]
    rfl
  have accepted : Settings.Generator.check (.text "_cache") (.text "Impl") (.text "context")
      (.text "Generated by daogen. Do not edit.") = .ok .default := by rfl
  obtain ⟨rest, lines⟩ := header_line_iff accepted rendered
  obtain ⟨text, ends, -, first, further⟩ := lines _ _ accepted
  obtain ⟨text', ends', -, first', further'⟩ := lines "shop" _ rfl
  refine ⟨text, text', ends, ends', first.mpr (by decide), first'.mpr (by decide), ?_⟩
  rw [further.mpr (by decide), further'.mpr (by decide)]

theorem return_leaks :
    ∃ settings, Settings.Generator.check (.text "_cache") (.text "Impl") (.text "context")
        (.text "shop\x0dimport os") = .ok settings ∧
      ∃ text, (Generator.new shop settings .empty).render.2 = .ok text ∧
        ∃ rest, sourceLines text.toList = "# shop".toList :: "import os".toList :: rest := by
  obtain ⟨g, m, done⟩ := shop_generated
  have moved : Generator.new shop ⟨.text "_cache", .text "Impl", "context", .text "shop\x0dimport os"⟩ .empty =
      (Generator.new shop .default .empty).headed (.text "shop\x0dimport os") := by rfl
  refine ⟨_, rfl, _, by rw [moved, render_text, generate_headed, done]; rfl, sourceLines (m.text.toList ++ ['\n']), ?_⟩
  rw [text_lines rfl]
  rfl

end DaoMapper.Mapper
