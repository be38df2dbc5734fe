import DaoMapper.Settings.Environment
import Mathlib

-- References to variables: what comes of one in a text depends on nothing around it but an
-- opening before it that is left open. In a value every text is expanded in its place.
namespace DaoMapper.Settings

section Texts

variable {env : Environment} {text name front opened rest : List Char}

def reference (name : List Char) : List Char := '$' :: '\x7b' :: name ++ ['\x7d']

def standIn (env : Environment) (name : List Char) : List Char :=
  match env.get? (String.ofList name) with
  | some value => value.toList
  | none => reference name

structure Names (text name : List Char) : Prop where
  nonempty : name ≠ []
  unclosed : '\x7d' ∉ name
  inside : reference name <:+: text

def LeavesOpen (text : List Char) : Prop := ∃ front opened, text = front ++ '$' :: '\x7b' :: opened ∧ '\x7d' ∉ opened

structure OpensAt (text front opened : List Char) : Prop where
  whole : text = front ++ '$' :: '\x7b' :: opened
  unclosed : '\x7d' ∉ opened
  first : ¬LeavesOpen front

theorem reference?_spells (found : reference? text = some (name, rest)) : text = name ++ '\x7d' :: rest := by
  unfold reference? at found
  have whole := List.takeWhile_append_dropWhile (p := fun c => decide (c ≠ '\x7d')) (l := text)
  have stopped := List.head?_dropWhile_not (fun c => decide (c ≠ '\x7d')) text
  cases tail : text.dropWhile (· ≠ '\x7d') with
  | nil =>
    simp only [tail] at found
    cases found
  | cons c more =>
    simp only [tail, List.head?_cons] at found whole stopped
    obtain rfl : c = '\x7d' := by simpa using stopped
    split at found
    · cases found
    · cases found
      exact whole.symm

theorem reference?_closed (unclosed : '\x7d' ∉ name) (rest : List Char) :
    reference? (name ++ '\x7d' :: rest) = if name.isEmpty then none else some (name, rest) := by
  have passes : ∀ c ∈ name, decide (c ≠ '\x7d') = true := by
    intro c among
    rw [decide_eq_true_eq]
    rintro rfl
    exact unclosed among
  rw [reference?, List.takeWhile_append_of_pos passes, List.dropWhile_append_of_pos passes]
  simp

theorem reference?_iff : reference? text = some (name, rest) ↔
    text = name ++ '\x7d' :: rest ∧ name ≠ [] ∧ '\x7d' ∉ name := by
  constructor
  · intro found
    have whole := reference?_spells found
    unfold reference? at found
    dsimp only at found
    split at found
    · split at found
      · cases found
      · rename_i named
        cases found
        refine ⟨whole, by simpa using named, fun among => ?_⟩
        simpa using List.mem_takeWhile_imp among
    · cases found
  · rintro ⟨rfl, nonempty, unclosed⟩
    rw [reference?_closed unclosed, if_neg (by simpa using nonempty)]

theorem reference?_none (unread : reference? text = none) : '\x7d' ∉ text ∨ ∃ more, text = '\x7d' :: more := by
  by_cases closes : '\x7d' ∈ text
  · right
    obtain ⟨name, more, rfl, unclosed⟩ := List.eq_append_cons_of_mem closes
    rw [reference?_closed unclosed] at unread
    cases name with
    | nil => exact ⟨more, rfl⟩
    | cons c name => cases unread
  · exact .inl closes

theorem expandChars_unread (unread : reference? text = none) :
    expandChars env ('$' :: '\x7b' :: text) = '$' :: expandChars env ('\x7b' :: text) := by
  rw [expandChars]
  split
  · rename_i found
    rw [unread] at found
    cases found
  · rfl

theorem expandChars_letter {c : Char} (plain : ∀ more, c = '$' → text = '\x7b' :: more → False) :
    expandChars env (c :: text) = c :: expandChars env text := by
  rw [expandChars]
  exact plain

theorem expandChars_reference (nonempty : name ≠ []) (unclosed : '\x7d' ∉ name) (rest : List Char) :
    expandChars env (reference name ++ rest) = standIn env name ++ expandChars env rest := by
  have found : reference? (name ++ '\x7d' :: rest) = some (name, rest) := reference?_iff.mpr ⟨rfl, nonempty, unclosed⟩
  have spelled : reference name ++ rest = '$' :: '\x7b' :: (name ++ '\x7d' :: rest) := by simp [reference]
  rw [spelled, expandChars]
  split
  · rename_i name' rest' same
    rw [found] at same
    cases same
    rfl
  · rename_i other
    rw [found] at other
    cases other

-- Along the text: a reference that is read in it is a part of it, so its variable is not set.
theorem expandChars_unset (unset : ∀ name, Names text name → env.get? (String.ofList name) = none) :
    expandChars env text = text := by
  fun_induction expandChars env text with
  | case1 text name rest found _ value ih =>
    obtain ⟨rfl, nonempty, unclosed⟩ := reference?_iff.mp found
    have spelled : '$' :: '\x7b' :: (name ++ '\x7d' :: rest) = reference name ++ rest := by simp [reference]
    rw [spelled] at unset ⊢
    have inside : reference name <:+: reference name ++ rest := (List.prefix_append _ _).isInfix
    have still := unset name ⟨nonempty, unclosed, inside⟩
    have later := ih fun other names =>
      unset other { names with inside := names.inside.trans (List.suffix_append _ _).isInfix }
    rw [later]
    simp only [value, still]
    rfl
  | case2 text unnamed ih =>
    rw [ih fun name names => unset name { names with inside := names.inside.trans (List.suffix_cons _ _).isInfix }]
  | case3 c text other ih =>
    rw [ih fun name names => unset name { names with inside := names.inside.trans (List.suffix_cons _ _).isInfix }]
  | case4 => rfl

theorem expandChars_unclosed (unclosed : '\x7d' ∉ text) : expandChars env text = text := by
  refine expandChars_unset fun name names => absurd (names.inside.subset ?_) unclosed
  simp [reference]

theorem LeavesOpen.of_suffix (opens : LeavesOpen rest) (tail : rest <:+ text) : LeavesOpen text := by
  obtain ⟨before, rfl⟩ := tail
  obtain ⟨front, opened, rfl, unclosed⟩ := opens
  exact ⟨before ++ front, opened, by simp, unclosed⟩

-- A text that leaves nothing open is expanded by itself: nothing that is read in it goes on
-- behind it, as long as its last character does not open something with what follows.
theorem expandChars_append (closed : ¬LeavesOpen front) (apart : rest.head? ≠ some '\x7b') :
    expandChars env (front ++ rest) = expandChars env front ++ expandChars env rest := by
  fun_induction expandChars env front with
  | case1 text name more found _ value ih =>
    obtain ⟨rfl, nonempty, unclosed⟩ := reference?_iff.mp found
    have spelled : '$' :: '\x7b' :: (name ++ '\x7d' :: more) ++ rest = reference name ++ (more ++ rest) := by
      simp [reference]
    have later := ih fun opens => closed (opens.of_suffix ⟨reference name, by simp [reference]⟩)
    rw [spelled, expandChars_reference nonempty unclosed, later, List.append_assoc]
    rfl
  | case2 text unnamed ih =>
    obtain unclosed | ⟨more, rfl⟩ := reference?_none unnamed
    · exact absurd ⟨[], text, rfl, unclosed⟩ closed
    · have still : reference? ('\x7d' :: more ++ rest) = none := by
        simpa using reference?_closed (show '\x7d' ∉ [] by simp) (more ++ rest)
      have later := ih fun opens => closed (opens.of_suffix (List.suffix_cons _ _))
      rw [List.cons_append, List.cons_append, expandChars_unread still, ← List.cons_append, later]
      rfl
  | case3 c text other ih =>
    have plain : ∀ more, c = '$' → text ++ rest = '\x7b' :: more → False := by
      intro more dollar brace
      cases text with
      | nil => exact apart (by simp [show rest = '\x7b' :: more from brace])
      | cons d text =>
        obtain ⟨rfl, _⟩ := List.cons.inj brace
        exact other text dollar rfl
    have later := ih fun opens => closed (opens.of_suffix (List.suffix_cons _ _))
    rw [List.cons_append, expandChars_letter plain, later]
    rfl
  | case4 => rfl

theorem LeavesOpen.first {text : List Char} (opens : LeavesOpen text) : ∃ front opened, OpensAt text front opened := by
  obtain ⟨front, opened, whole, unclosed⟩ := opens
  by_cases earlier : LeavesOpen front
  · obtain ⟨start, more, inner, unclosedThere, first⟩ := earlier.first
    refine ⟨start, more ++ '$' :: '\x7b' :: opened, ?_, ?_, first⟩
    · rw [whole, inner, List.append_assoc]
      rfl
    · simp [unclosed, unclosedThere]
  · exact ⟨front, opened, whole, unclosed, earlier⟩
termination_by text.length
decreasing_by
  rw [whole, List.length_append, List.length_cons]
  omega

theorem OpensAt.expandChars (opens : OpensAt text front opened) :
    expandChars env text = expandChars env front ++ '$' :: '\x7b' :: opened := by
  have unclosed : '\x7d' ∉ '$' :: '\x7b' :: opened := by simp [opens.unclosed]
  rw [opens.whole, expandChars_append opens.first (by simp), expandChars_unclosed unclosed]

variable {before after : List Char}

theorem expandChars_behind (closed : ¬LeavesOpen before) (nonempty : name ≠ []) (unclosed : '\x7d' ∉ name) :
    expandChars env (before ++ (reference name ++ after)) =
      expandChars env before ++ (standIn env name ++ expandChars env after) := by
  rw [expandChars_append closed (by simp [reference]), expandChars_reference nonempty unclosed]

-- What was left open takes the opening of the reference for a part of its own name.
theorem OpensAt.expandChars_behind (opens : OpensAt before front opened) (unclosed : '\x7d' ∉ name) :
    Settings.expandChars env (before ++ (reference name ++ after)) =
      Settings.expandChars env front ++
        (standIn env (opened ++ '$' :: '\x7b' :: name) ++ Settings.expandChars env after) := by
  have swallowed : before ++ (reference name ++ after) =
      front ++ (reference (opened ++ '$' :: '\x7b' :: name) ++ after) := by
    simp [opens.whole, reference]
  have unclosedName : '\x7d' ∉ opened ++ '$' :: '\x7b' :: name := by simp [opens.unclosed, unclosed]
  rw [swallowed, Settings.expandChars_behind opens.first (by simp) unclosedName]

theorem standIn_set {value : String} (set : env.get? (String.ofList name) = some value) :
    standIn env name = value.toList := by
  rw [standIn, set]

-- A reference gives its value, and its surroundings what they give by themselves, just where
-- nothing is left open before it, or the variable of the longer name happens to read the same.
theorem expandChars_independent_iff (nonempty : name ≠ []) (unclosed : '\x7d' ∉ name) (after : List Char) :
    expandChars env (before ++ (reference name ++ after)) =
        expandChars env before ++ (standIn env name ++ expandChars env after) ↔
      ¬LeavesOpen before ∨ ∃ front opened, OpensAt before front opened ∧
        standIn env (opened ++ '$' :: '\x7b' :: name) = '$' :: '\x7b' :: opened ++ standIn env name := by
  have split_iff {front opened} (opens : OpensAt before front opened) :
      expandChars env (before ++ (reference name ++ after)) =
          expandChars env before ++ (standIn env name ++ expandChars env after) ↔
        standIn env (opened ++ '$' :: '\x7b' :: name) = '$' :: '\x7b' :: opened ++ standIn env name := by
    rw [opens.expandChars_behind unclosed, opens.expandChars, List.append_assoc, List.append_cancel_left_eq,
      ← List.append_assoc, List.append_cancel_right_eq]
  by_cases open_ : LeavesOpen before
  · simp only [open_, not_true_eq_false, false_or]
    constructor
    · intro same
      obtain ⟨front, opened, opens⟩ := open_.first
      exact ⟨front, opened, opens, (split_iff opens).mp same⟩
    · rintro ⟨front, opened, opens, same⟩
      exact (split_iff opens).mpr same
  · exact iff_of_true (expandChars_behind open_ nonempty unclosed) (.inl open_)

end Texts

section Values

variable {env : Environment}

theorem expandAll_map (env : Environment) (items : List Value) : expandAll env items = items.map (expand env) := by
  induction items with
  | nil => rfl
  | cons v rest ih => rw [expandAll, ih, List.map_cons]

theorem expandEntries_map (env : Environment) (entries : List (Value × Value)) :
    expandEntries env entries = entries.map fun e => (e.1, expand env e.2) := by
  induction entries with
  | nil => rfl
  | cons e rest ih => rw [expandEntries, ih, List.map_cons]

def child? : Value → Nat → Option Value
  | .list items, n => items[n]?
  | .map entries, n => (entries[n]?).map (·.2)
  | _, _ => none

def at? : List Nat → Value → Option Value
  | [], v => some v
  | n :: way, v => (child? v n).bind (at? way)

-- Texts are expanded, lists keep their length and mappings their keys; all else stays.
inductive Expanded (env : Environment) : Value → Value → Prop where
  | text (s : String) : Expanded env (.text s) (.text (expandText env s))
  | list {items made : List Value} (size : made.length = items.length) : Expanded env (.list items) (.list made)
  | map {entries made : List (Value × Value)} (keys : made.map (·.1) = entries.map (·.1)) :
      Expanded env (.map entries) (.map made)
  | other {v : Value} (noText : ∀ s, v ≠ .text s) (noList : ∀ items, v ≠ .list items)
      (noMap : ∀ entries, v ≠ .map entries) : Expanded env v v

theorem expand_expanded (env : Environment) (v : Value) : Expanded env v (expand env v) := by
  cases v with
  | text s => exact .text s
  | list items =>
    rw [expand, expandAll_map]
    exact .list (List.length_map _)
  | map entries =>
    rw [expand, expandEntries_map]
    exact .map (by simp)
  | _ => exact .other (by simp) (by simp) (by simp)

theorem child?_expand (env : Environment) (v : Value) (n : Nat) :
    child? (expand env v) n = (child? v n).map (expand env) := by
  cases v with
  | list items => rw [expand, expandAll_map, child?, child?, List.getElem?_map]
  | map entries =>
    rw [expand, expandEntries_map, child?, child?, List.getElem?_map, Option.map_map, Option.map_map]
    rfl
  | _ => rfl

theorem at?_expand (env : Environment) (way : List Nat) (v : Value) :
    at? way (expand env v) = (at? way v).map (expand env) := by
  induction way generalizing v with
  | nil => rfl
  | cons n way ih =>
    rw [at?, at?, child?_expand]
    cases child? v n with
    | none => rfl
    | some w => exact ih w

end Values

section Placeholders

variable {env : Environment}

def placeholder (name : String) : String := String.ofList (reference name.toList)

-- Each part is expanded by itself, but for one that is left open before.
structure Placed (env : Environment) (before name value after : String) : Prop where
  independent_iff : expandText env (before ++ placeholder name ++ after) =
      expandText env before ++ value ++ expandText env after ↔
    ¬LeavesOpen before.toList ∨ ∃ front opened, OpensAt before.toList front opened ∧
      standIn env (opened ++ '$' :: '\x7b' :: name.toList) = '$' :: '\x7b' :: opened ++ value.toList
  swallowed : ∀ front opened, OpensAt before.toList front opened →
    expandText env (before ++ placeholder name ++ after) = String.ofList (expandChars env front) ++
      String.ofList (standIn env (opened ++ '$' :: '\x7b' :: name.toList)) ++ expandText env after

theorem expandText_eq_iff {text made : String} : expandText env text = made ↔ expandChars env text.toList = made.toList := by
  rw [← String.toList_inj, expandText, String.toList_ofList]

theorem placeholder_toList (before name after : String) :
    (before ++ placeholder name ++ after).toList = before.toList ++ (reference name.toList ++ after.toList) := by
  rw [String.toList_append, String.toList_append, placeholder, String.toList_ofList, List.append_assoc]

theorem placed {name value : String} (nonempty : name ≠ "") (unclosed : '\x7d' ∉ name.toList)
    (set : env.get? name = some value) (before after : String) : Placed env before name value after := by
  have given : standIn env name.toList = value.toList := standIn_set (by rw [String.ofList_toList, set])
  have there : name.toList ≠ [] := by simpa using nonempty
  constructor
  · rw [expandText_eq_iff, placeholder_toList, ← given, ← expandChars_independent_iff there unclosed after.toList]
    simp only [String.toList_append, expandText, String.toList_ofList, given, List.append_assoc]
  · intro front opened opens
    rw [expandText_eq_iff, placeholder_toList, opens.expandChars_behind unclosed]
    simp only [String.toList_append, expandText, String.toList_ofList, List.append_assoc]

-- For every environment: a placeholder of a variable that is set gives its value, unread, as
-- long as nothing is left open before it; a text without variables that are set stays; and a
-- value keeps its shape, its keys and all that is no text.
theorem placeholders_settled (env : Environment) :
    (∀ before name value after, name ≠ "" → '\x7d' ∉ name.toList → env.get? name = some value →
      Placed env before name value after) ∧
    (∀ text : String, (∀ name, Names text.toList name → env.get? (String.ofList name) = none) →
      expandText env text = text) ∧
    ∀ way v, Option.Rel (Expanded env) (at? way v) (at? way (expand env v)) := by
  refine ⟨fun before name value after nonempty unclosed set => placed nonempty unclosed set before after, ?_, ?_⟩
  · intro text unset
    rw [expandText_eq_iff, expandChars_unset unset]
  · intro way v
    rw [at?_expand]
    cases at? way v with
    | none => exact .none
    | some w => exact .some (expand_expanded env w)

def owned : Environment := ⟨[("OWNER", "team")]⟩

theorem owner_placed : owned.get? "OWNER" = some "team" ∧
    expandText owned ("by " ++ placeholder "OWNER" ++ "!") = expandText owned "by " ++ "team" ++ expandText owned "!" := by
  have set : owned.get? "OWNER" = some "team" := by decide
  have closed : ¬LeavesOpen "by ".toList := by
    rintro ⟨front, opened, whole, _⟩
    have dollar : '$' ∈ "by ".toList := by simp [whole]
    exact absurd dollar (by decide)
  have placed := (placeholders_settled owned).1 "by " "OWNER" "team" "!" (by decide) (by decide) set
  exact ⟨set, placed.independent_iff.mpr (.inl closed)⟩

-- An opening before the placeholder reaches up to its closing brace: what is asked for then is
-- a variable of another name.
theorem opening_swallows : owned.get? "OWNER" = some "team" ∧
    expandText owned ("$\x7bA" ++ placeholder "OWNER" ++ "") = "$\x7bA$\x7bOWNER\x7d" ∧
    expandText owned "$\x7bA" ++ "team" ++ expandText owned "" = "$\x7bAteam" := by
  cbv

end Placeholders

end DaoMapper.Settings
