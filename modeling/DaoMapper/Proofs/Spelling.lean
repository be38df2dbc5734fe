import DaoMapper.Execution.Load
import DaoMapper.Proofs.Numbering
import Mathlib.Data.List.Forall2

-- Which names can be written: what may be put behind a name, and for which suggestions the
-- cleaning makes a name. A keyword never comes out of it.
namespace DaoMapper.Text

section classes

variable {a b n : Nat} {inner outer : List Nat}

def hasAt (bounds : List Nat) (n : Nat) : Bool := (bounds.takeWhile (· ≤ n)).length % 2 = 1

theorem hasAt_pair (a b : Nat) (rest : List Nat) (n : Nat) :
    hasAt (a :: b :: rest) n = (decide (a ≤ n) && (decide (n < b) || hasAt rest n)) := by
  unfold hasAt
  by_cases entered : a ≤ n
  · by_cases left : b ≤ n
    · have still : ¬ n < b := by omega
      simp [entered, left, still]
      omega
    · have still : n < b := by omega
      simp [entered, left, still]
  · simp [entered]

def ahead (point : Nat) : List Nat → List Nat
  | c :: d :: rest => if c ≤ point ∧ d ≤ point then ahead point rest else c :: d :: rest
  | short => short

def within : List Nat → List Nat → Bool
  | a :: b :: inner, outer =>
    match ahead a outer with
    | c :: d :: rest => c ≤ a && b ≤ d && within inner (c :: d :: rest)
    | _ => false
  | [_], _ => false
  | [], _ => true

theorem ahead_has (reached : a ≤ n) : hasAt (ahead a outer) n = hasAt outer n := by
  fun_induction ahead a outer with
  | case1 c d rest passed ih =>
    have entered : c ≤ n := by omega
    have left : ¬ n < d := by omega
    rw [ih, hasAt_pair]
    simp [entered, left]
  | case2 => rfl
  | case3 => rfl

theorem within_has (inside : within inner outer = true) (has : hasAt inner n = true) : hasAt outer n = true := by
  fun_induction within inner outer with
  | case1 outer a b inner c d rest front ih =>
    rw [Bool.and_eq_true, Bool.and_eq_true, decide_eq_true_eq, decide_eq_true_eq] at inside
    obtain ⟨⟨from_, upto⟩, later⟩ := inside
    rw [hasAt_pair, Bool.and_eq_true, Bool.or_eq_true, decide_eq_true_eq, decide_eq_true_eq] at has
    obtain ⟨reached, here | behind⟩ := has
    · rw [← ahead_has reached, front, hasAt_pair]
      have entered : c ≤ n := by omega
      have still : n < d := by omega
      simp [entered, still]
    · rw [← ahead_has reached, front]
      exact ih later behind
  | case2 => cases inside
  | case3 => cases inside
  | case4 => cases has

set_option maxRecDepth 8000 in
theorem nameStart_within : within nameStart.bounds nameContinue.bounds = true := by decide

theorem isNameContinue_of_start {c : Char} (start : isNameStart c = true) : isNameContinue c = true := by
  unfold isNameStart at start
  unfold isNameContinue
  split at start
  · rename_i ascii
    rw [if_pos ascii]
    simp only [Char.isAlphanum, Bool.or_eq_true] at start ⊢
    exact start.imp_left .inl
  · rename_i far
    rw [if_neg far]
    exact within_has nameStart_within start

end classes

section names

variable {name more : List Char}

theorem isName_append (nonempty : name ≠ []) (more : List Char) :
    isName (name ++ more) = (isName name && more.all isNameContinue) := by
  cases name with
  | nil => exact absurd rfl nonempty
  | cons c rest => rw [List.cons_append, isName, isName, List.all_append, Bool.and_assoc]

theorem isName_nonempty (named : isName name = true) : name ≠ [] := by
  intro empty
  subst empty
  cases named

theorem isName_continues (named : isName name = true) : name.all isNameContinue = true := by
  cases name with
  | nil => cases named
  | cons c rest =>
    rw [isName, Bool.and_eq_true] at named
    rw [List.all_cons, isNameContinue_of_start named.1, named.2]
    rfl

theorem keywords_named : ∀ word ∈ keywords, isName word.toList = true ∧ '_' ∉ word.toList := by decide

theorem isName_of_keyword (taken : isKeyword name = true) : isName name = true := by
  have named := (keywords_named (String.ofList name) (by simpa [isKeyword] using taken)).1
  rwa [String.toList_ofList] at named

theorem isKeyword_underscore (marked : '_' ∈ name) : isKeyword name = false := by
  cases taken : isKeyword name with
  | false => rfl
  | true =>
    have plain := (keywords_named (String.ofList name) (by simpa [isKeyword] using taken)).2
    rw [String.toList_ofList] at plain
    exact absurd marked plain

end names

end DaoMapper.Text

namespace DaoMapper.Mapper

open Execution (isFreeName)
open Text

-- An opening digit gets something in front.
def spellable : List Char → Bool
  | [] => true
  | c :: rest => (!isWordChar c || isNameStart c || isDigitChar c && isNameContinue c) &&
    rest.all fun c => !isWordChar c || isNameContinue c

section cleaning

variable {text : List Char}

theorem cleanChar_either (c : Char) :
    isWordChar c = true ∧ cleanChar c = c ∨ isWordChar c = false ∧ cleanChar c = '_' := by
  unfold cleanChar
  cases word : isWordChar c with
  | true => exact .inl ⟨rfl, rfl⟩
  | false =>
    refine .inr ⟨rfl, ?_⟩
    split
    · rename_i same
      simpa using same
    · rfl

theorem cleanChar_start (c : Char) : isNameStart (cleanChar c) = (!isWordChar c || isNameStart c) := by
  have underscore : isNameStart '_' = true := by decide
  obtain ⟨word, same⟩ | ⟨word, same⟩ := cleanChar_either c <;> simp [word, same, underscore]

theorem cleanChar_continue (c : Char) : isNameContinue (cleanChar c) = (!isWordChar c || isNameContinue c) := by
  have underscore : isNameContinue '_' = true := by decide
  obtain ⟨word, same⟩ | ⟨word, same⟩ := cleanChar_either c <;> simp [word, same, underscore]

theorem cleanChar_digit (c : Char) : isDigitChar (cleanChar c) = (isWordChar c && isDigitChar c) := by
  have underscore : isDigitChar '_' = false := by decide
  obtain ⟨word, same⟩ | ⟨word, same⟩ := cleanChar_either c <;> simp [word, same, underscore]

def opened (text : List Char) : List Char :=
  let cleaned := if text.isEmpty then "field".toList else text.map cleanChar
  if cleaned.head?.any isDigitChar then '_' :: cleaned else cleaned

theorem sanitize_opened (text : List Char) :
    sanitize text = if isKeyword (opened text) then opened text ++ ['_'] else opened text := rfl

theorem opened_isName (text : List Char) : isName (opened text) = spellable text := by
  cases text with
  | nil => decide
  | cons c rest =>
    have all : (rest.map cleanChar).all isNameContinue = rest.all fun c => !isWordChar c || isNameContinue c := by
      rw [List.all_map]
      congr 1
      exact funext cleanChar_continue
    simp only [opened, List.isEmpty_cons, Bool.false_eq_true, ↓reduceIte, List.map_cons, List.head?_cons, Option.any_some,
      cleanChar_digit]
    split
    · rename_i digit
      have underscore : isNameStart '_' = true := by decide
      rw [Bool.and_eq_true] at digit
      rw [isName, underscore, List.all_cons, cleanChar_continue, all, spellable, digit.1, digit.2]
      cases start : isNameStart c with
      | false => simp
      | true => simp [isNameContinue_of_start start]
    · rename_i other
      rw [isName, cleanChar_start, all, spellable]
      cases word : isWordChar c with
      | false => simp
      | true =>
        have other : isDigitChar c = false := by simpa [word] using other
        simp [other]

theorem sanitize_isName (text : List Char) : isName (sanitize text) = spellable text := by
  rw [sanitize_opened, ← opened_isName]
  split
  · rename_i taken
    have named := isName_of_keyword taken
    have underscore : isNameContinue '_' = true := by decide
    rw [isName_append (isName_nonempty named), named, List.all_cons, underscore]
    rfl
  · rfl

theorem sanitize_keyword (text : List Char) : isKeyword (sanitize text) = false := by
  rw [sanitize_opened]
  split
  · exact isKeyword_underscore (by simp)
  · rename_i free
    simpa using free

theorem sanitize_nonempty (text : List Char) : sanitize text ≠ [] := by
  have nonempty : opened text ≠ [] := by
    cases text with
    | nil => decide
    | cons c rest =>
      simp only [opened, List.isEmpty_cons, Bool.false_eq_true, ↓reduceIte, List.map_cons]
      split <;> simp
  rw [sanitize_opened]
  split <;> simp [nonempty]

theorem isName_spellable (named : isName text = true) : spellable text = true := by
  cases text with
  | nil => rfl
  | cons c rest =>
    rw [isName, Bool.and_eq_true, List.all_eq_true] at named
    rw [spellable, named.1, Bool.or_true, Bool.true_or, Bool.true_and, List.all_eq_true]
    intro d among
    rw [named.2 d among, Bool.or_true]

end cleaning

section numbering

theorem digits_continue (n : Nat) : (toString n).toList.all isNameContinue = true := by
  rw [Nat.toString_eq_repr, Nat.toList_repr, List.all_eq_true]
  intro c among
  have digit := Nat.isDigit_of_mem_toDigits (by decide) (by decide) among
  have ascii : c.toNat < 128 := by
    simp only [Char.isDigit, Bool.and_eq_true, decide_eq_true_eq, UInt32.le_iff_toNat_le] at digit
    have upto : c.toNat ≤ 57 := digit.2
    omega
  simp [isNameContinue, ascii, Char.isAlphanum, digit]

theorem numbered_isName {base : String} (nonempty : base.toList ≠ []) (n : Nat) :
    isName (numbered base n).toList = isName base.toList := by
  have underscore : isNameContinue '_' = true := by decide
  have tail : ("_".toList ++ (toString n).toList).all isNameContinue = true := by
    rw [List.all_append, digits_continue, Bool.and_true]
    exact underscore
  rw [numbered, String.toList_append, String.toList_append, List.append_assoc, isName_append nonempty, tail, Bool.and_true]

theorem numbered_keyword (base : String) (n : Nat) : isKeyword (numbered base n).toList = false := by
  refine isKeyword_underscore ?_
  simp [numbered]

theorem uniqueField_spelled (taken : List String) (suggestion : String) :
    isKeyword (uniqueField taken suggestion).toList = false ∧
      isName (uniqueField taken suggestion).toList = spellable suggestion.toList := by
  have base : (cleaned suggestion).toList = sanitize suggestion.toList := String.toList_ofList
  have nonempty : (cleaned suggestion).toList ≠ [] := by
    rw [base]
    exact sanitize_nonempty _
  have found := uniqueField_search taken suggestion
  by_cases has : cleaned suggestion ∈ taken
  · obtain ⟨n, _, same, _⟩ := search_least has found
    rw [same, numbered_isName nonempty, base]
    exact ⟨numbered_keyword _ n, sanitize_isName _⟩
  · rw [search_kept has found, base]
    exact ⟨sanitize_keyword _, sanitize_isName _⟩

theorem uniqueField_isFreeName (taken : List String) (suggestion : String) :
    isFreeName (uniqueField taken suggestion) = spellable suggestion.toList := by
  obtain ⟨free, named⟩ := uniqueField_spelled taken suggestion
  rw [isFreeName, free, named]
  exact Bool.and_true _

theorem uniqueFields_isFreeName (taken suggestions : List String) :
    (∀ name ∈ uniqueFields taken suggestions, isFreeName name = true) ↔
      ∀ suggestion ∈ suggestions, spellable suggestion.toList = true := by
  induction suggestions generalizing taken with
  | nil => simp [uniqueFields]
  | cons first rest ih =>
    rw [uniqueFields, List.forall_mem_cons, List.forall_mem_cons, uniqueField_isFreeName]
    exact and_congr_right' (ih _)

end numbering

-- One by one and all together: the cleaning never makes a keyword, and it makes names of
-- the texts that can be spelled and of no others.
theorem uniqueFields_usable_iff (reserved suggestions : List String) :
    List.Forall₂ (fun suggestion name =>
        isKeyword name.toList = false ∧ isName name.toList = spellable suggestion.toList)
      suggestions (uniqueFields reserved suggestions) ∧
    ((∀ name ∈ uniqueFields reserved suggestions, isFreeName name = true) ↔
      ∀ suggestion ∈ suggestions, spellable suggestion.toList = true) := by
  refine ⟨?_, uniqueFields_isFreeName reserved suggestions⟩
  induction suggestions generalizing reserved with
  | nil => exact .nil
  | cons first rest ih => exact .cons (uniqueField_spelled reserved first) (ih _)

set_option maxRecDepth 8000 in
-- A fraction, a raised digit, and a vowel sign that only follows other letters.
theorem fractions_unusable : uniqueFields [] ["½", "x²", "\u0e33"] = ["½", "x²", "\u0e33"] ∧
    ∀ name ∈ uniqueFields [] ["½", "x²", "\u0e33"], isFreeName name = false := by
  decide

end DaoMapper.Mapper
