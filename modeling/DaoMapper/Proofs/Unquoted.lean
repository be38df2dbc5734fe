import DaoMapper.Proofs.NameForms
import Mathlib

-- Names without quotes, against the grammar: a letter of ASCII, then letters, digits and
-- underscores. A line feed at the end and the Kelvin sign come through beside these.
namespace DaoMapper.Cql

open Text

def shaped (first later : Char → Bool) : List Char → Bool
  | [] => false
  | c :: rest => first c && rest.all later

def grammarName : List Char → Bool := shaped Char.isAlpha fun c => c.isAlphanum || c == '_'

def smallName : List Char → Bool := shaped Char.isLower fun c => c.isLower || c.isDigit || c == '_'

-- The one letter beyond ASCII whose lower case is within it.
def kelvinSign : Char := '\u212a'

def wideName : List Char → Bool :=
  shaped (fun c => c.isAlpha || c == kelvinSign) fun c => c.isAlphanum || c == '_' || c == kelvinSign

def Fed (isName : List Char → Bool) (text : List Char) : Prop := ∃ name, isName name = true ∧ text = name ++ ['\n']

def ReadByGrammar (text : String) : Prop :=
  ∀ i, Identifier.ofCql text = .ok i ↔
    grammarName text.toList = true ∧ lowerText text ∉ reservedWords ∧ i = ⟨lowerText text⟩

def WrittenByGrammar (name : String) : Prop :=
  Identifier.toCql ⟨name⟩ true = name ↔ smallName name.toList = true ∧ name ∉ reservedWords

def ReadBeyond (text : String) : Prop :=
  Fed wideName text.toList ∨
    wideName text.toList = true ∧ kelvinSign ∈ text.toList ∧ lowerText text ∉ reservedWords

section Shapes

variable {first later first' later' : Char → Bool} {text name : List Char}

theorem shaped_all {good : Char → Prop} (named : shaped first later text = true) (firsts : ∀ c, first c = true → good c)
    (laters : ∀ c, later c = true → good c) : ∀ c ∈ text, good c := by
  cases text with
  | nil => cases named
  | cons c rest =>
    rw [shaped, Bool.and_eq_true, List.all_eq_true] at named
    intro d among
    rcases List.mem_cons.mp among with rfl | behind
    · exact firsts _ named.1
    · exact laters _ (named.2 _ behind)

theorem shaped_congr (firsts : ∀ c ∈ text, first c = first' c) (laters : ∀ c ∈ text, later c = later' c) :
    shaped first later text = shaped first' later' text := by
  cases text with
  | nil => rfl
  | cons c rest =>
    rw [shaped, shaped, firsts c List.mem_cons_self]
    congr 1
    rw [Bool.eq_iff_iff, List.all_eq_true, List.all_eq_true]
    exact forall₂_congr fun d among => by rw [laters d (List.mem_cons_of_mem _ among)]

theorem shaped_map (f : Char → Char) : shaped first later (text.map f) = shaped (first ∘ f) (later ∘ f) text := by
  cases text with
  | nil => rfl
  | cons c rest => rw [List.map_cons, shaped, shaped, List.all_map, Function.comp_apply]

theorem small_plain (name : List Char) : smallName name = shaped smallLetter nameChar name := by
  have letter (c : Char) : c.isLower = smallLetter c := rfl
  have digit (c : Char) : c.isDigit = ('0' ≤ c && c ≤ '9') := rfl
  exact shaped_congr (fun c _ => letter c) fun c _ => by rw [letter, digit, nameChar]

-- What the pattern lets through is a name, or a name with a line feed behind it.
theorem plainName_iff : plainName text = true ↔ smallName text = true ∨ Fed smallName text := by
  have no_feed : nameChar '\n' = false := rfl
  cases text with
  | nil => simp [plainName, small_plain, shaped, Fed]
  | cons c rest =>
    rw [plainName, Bool.and_eq_true, Bool.or_eq_true, beq_iff_eq, beq_iff_eq, List.dropWhile_eq_nil_iff, small_plain,
      shaped, Bool.and_eq_true, List.all_eq_true, and_or_left]
    refine or_congr_right ⟨?_, ?_⟩
    · rintro ⟨letter, behind⟩
      refine ⟨c :: rest.takeWhile nameChar, ?_, ?_⟩
      · rw [small_plain, shaped, letter, List.all_takeWhile]
        rfl
      · rw [List.cons_append, ← behind, List.takeWhile_append_dropWhile]
    · rintro ⟨name, named, whole⟩
      cases name with
      | nil => cases named
      | cons d inner =>
        rw [List.cons_append, List.cons.injEq] at whole
        obtain ⟨rfl, rfl⟩ := whole
        rw [small_plain, shaped, Bool.and_eq_true, List.all_eq_true] at named
        exact ⟨named.1, by simp [List.dropWhile_append_of_pos named.2, no_feed]⟩

end Shapes

section Lowering

variable {text : List Char} {c : Char}

def readAs (c : Char) : Char := if c = kelvinSign then 'k' else c.toLower

def Near (c : Char) : Prop := c.toNat < 128 ∨ c = kelvinSign

theorem lowerRuns_apart : ∀ run ∈ lowerRuns, run.last < 128 ∨ run.first = 8490 ∧ run.last = 8490 ∨
    128 ≤ run.first + run.shift ∧ (run.last + run.shift < 0xd800 ∨
      0xe000 ≤ run.first + run.shift ∧ run.last + run.shift < 0x110000) := by
  decide +kernel

theorem lowerChar_kelvin : lowerChar kelvinSign = ['k'] := by decide +kernel

theorem lowerChar_beyond (beyond : ¬ Near c) : ∃ d ∈ lowerChar c, 128 ≤ d.toNat := by
  obtain ⟨far, other⟩ := not_or.mp beyond
  have not_kelvin : c.toNat ≠ 8490 := by
    intro same
    rw [← Char.ofNat_toNat c, same] at other
    exact other rfl
  rw [lowerChar, if_neg far, mapCase]
  split
  · rename_i codes found
    obtain ⟨rfl, rfl⟩ : _ = 304 ∧ codes = [105, 775] := by simpa [lowerExpansions] using List.mem_of_find?_eq_some found
    exact ⟨Char.ofNat 775, by simp, by decide⟩
  · split
    · rename_i run found
      have covers := List.find?_some found
      rw [CaseRun.covers, Bool.and_eq_true, Bool.and_eq_true, decide_eq_true_eq, decide_eq_true_eq] at covers
      refine ⟨_, List.mem_singleton_self _, ?_⟩
      have moved : (c.toNat + run.shift).toNat.isValidChar ∧ 128 ≤ (c.toNat + run.shift).toNat := by
        have apart := lowerRuns_apart run (List.mem_of_find?_eq_some found)
        simp only [Nat.isValidChar]
        omega
      rw [CaseRun.move, Char.toNat_ofNat, if_pos moved.1]
      exact moved.2
    · exact ⟨c, List.mem_singleton_self _, Nat.le_of_not_lt far⟩

theorem lowerChar_near (near : Near c) : c ≠ 'Σ' ∧ lowerChar c = [readAs c] := by
  rcases near with ascii | rfl
  · refine ⟨?_, ?_⟩
    · rintro rfl
      exact absurd ascii (by decide)
    · have other : c ≠ kelvinSign := by
        rintro rfl
        exact absurd ascii (by decide)
      rw [lowerChar, if_pos ascii, readAs, if_neg other]
  · exact ⟨by decide, lowerChar_kelvin⟩

theorem lowerAfter_near (near : ∀ c ∈ text, Near c) (before : List Char) : lowerAfter before text = text.map readAs := by
  induction text generalizing before with
  | nil => rfl
  | cons c rest ih =>
    obtain ⟨no_sigma, read⟩ := lowerChar_near (near c List.mem_cons_self)
    rw [lowerAfter, if_neg no_sigma, read, ih fun d among => near d (List.mem_cons_of_mem _ among)]
    rfl

theorem near_of_lower {before : List Char} (within : ∀ d ∈ lowerAfter before text, d.toNat < 128) : ∀ c ∈ text, Near c := by
  induction text generalizing before with
  | nil => simp
  | cons c rest ih =>
    rw [lowerAfter, List.forall_mem_append] at within
    refine List.forall_mem_cons.mpr ⟨?_, ih within.2⟩
    by_contra beyond
    obtain ⟨d, among, far⟩ := lowerChar_beyond beyond
    have here := within.1
    split at here
    · split at here <;> exact absurd (here _ (List.mem_singleton_self _)) (by decide)
    · exact absurd (here d among) (Nat.not_lt.mpr far)

-- Below 128 the classes of what is read are told letter by letter.
theorem read_ascii : ∀ n < 128, smallLetter (Char.ofNat n).toLower = (Char.ofNat n).isAlpha ∧
    nameChar (Char.ofNat n).toLower = ((Char.ofNat n).isAlphanum || Char.ofNat n == '_') ∧
    ((Char.ofNat n).toLower = '\n' → Char.ofNat n = '\n') := by
  decide +kernel

theorem readAs_classes (near : Near c) : smallLetter (readAs c) = (c.isAlpha || c == kelvinSign) ∧
    nameChar (readAs c) = (c.isAlphanum || c == '_' || c == kelvinSign) ∧ (readAs c = '\n' → c = '\n') := by
  by_cases kelvin : c = kelvinSign
  · subst kelvin
    decide
  · have ascii := near.resolve_right kelvin
    have classes := read_ascii c.toNat ascii
    rw [Char.ofNat_toNat] at classes
    rw [readAs, if_neg kelvin, beq_eq_false_iff_ne.mpr kelvin, Bool.or_false, Bool.or_false]
    exact classes

end Lowering

section Reading

variable {text : List Char}

theorem wideName_near (wide : wideName text = true) : ∀ c ∈ text, Near c := by
  have ascii {c : Char} (word : c.isAlphanum = true) : c.toNat < 128 := by
    simp only [Char.isAlphanum, Char.isAlpha, Char.isUpper, Char.isLower, Char.isDigit, Bool.or_eq_true, Bool.and_eq_true,
      decide_eq_true_eq, UInt32.le_iff_toNat_le, ge_iff_le] at word
    change ((65 ≤ c.toNat ∧ c.toNat ≤ 90) ∨ (97 ≤ c.toNat ∧ c.toNat ≤ 122)) ∨ (48 ≤ c.toNat ∧ c.toNat ≤ 57) at word
    omega
  refine shaped_all wide (fun c letter => ?_) fun c word => ?_
  · rw [Bool.or_eq_true, beq_iff_eq] at letter
    exact letter.imp_left fun alpha => ascii (by rw [Char.isAlphanum, alpha]; rfl)
  · rw [Bool.or_eq_true, Bool.or_eq_true, beq_iff_eq, beq_iff_eq] at word
    rcases word with (word | rfl) | kelvin
    · exact .inl (ascii word)
    · exact .inl (by decide)
    · exact .inr kelvin

theorem fed_near (fed : Fed wideName text) : ∀ c ∈ text, Near c := by
  obtain ⟨name, wide, rfl⟩ := fed
  exact List.forall_mem_append.mpr ⟨wideName_near wide, fun c feed => .inl (by rw [List.mem_singleton.mp feed]; decide)⟩

theorem smallName_read (near : ∀ c ∈ text, Near c) : smallName (text.map readAs) = wideName text := by
  rw [small_plain, shaped_map]
  exact shaped_congr (fun c among => (readAs_classes (near c among)).1) fun c among => (readAs_classes (near c among)).2.1

theorem fed_read (near : ∀ c ∈ text, Near c) : Fed smallName (text.map readAs) ↔ Fed wideName text := by
  constructor
  · rintro ⟨small, named, whole⟩
    obtain ⟨name, feed, rfl, rfl, last⟩ := List.map_eq_append_iff.mp whole
    obtain ⟨c, rfl, read⟩ := List.map_eq_singleton_iff.mp last
    obtain ⟨before, behind⟩ := List.forall_mem_append.mp near
    obtain rfl := (readAs_classes (behind c (List.mem_singleton_self c))).2.2 read
    exact ⟨name, (smallName_read before).symm.trans named, rfl⟩
  · rintro ⟨name, wide, rfl⟩
    refine ⟨name.map readAs, (smallName_read (wideName_near wide)).trans wide, ?_⟩
    rw [List.map_append]
    rfl

-- Lowered to a plain name is what is a name but for Kelvin signs, and such a name fed.
theorem plainName_lower_iff : plainName (lower text) = true ↔ wideName text = true ∨ Fed wideName text := by
  constructor
  · intro plain
    have near : ∀ c ∈ text, Near c := @near_of_lower _ [] fun d among => by
      have code := plain_code (plainName_chars plain d among)
      omega
    rw [lower, lowerAfter_near near, plainName_iff, smallName_read near, fed_read near] at plain
    exact plain
  · intro wide
    have near : ∀ c ∈ text, Near c := wide.elim wideName_near fed_near
    rw [lower, lowerAfter_near near, plainName_iff, smallName_read near, fed_read near]
    exact wide

theorem grammarName_iff : grammarName text = true ↔ wideName text = true ∧ kelvinSign ∉ text := by
  have no_letter : kelvinSign.isAlphanum = false := rfl
  have others (absent : kelvinSign ∉ text) : grammarName text = wideName text :=
    have other : ∀ c ∈ text, (c == kelvinSign) = false := fun c among => beq_eq_false_iff_ne.mpr (absent <| · ▸ among)
    shaped_congr (fun c among => by rw [other c among, Bool.or_false]) fun c among => by rw [other c among, Bool.or_false]
  constructor
  · intro named
    have absent : kelvinSign ∉ text := fun among => by
      have words : ∀ c ∈ text, c.isAlphanum = true ∨ c = '_' := shaped_all named
        (fun c alpha => .inl (by rw [Char.isAlphanum, alpha]; rfl)) fun c word => by simpa using word
      exact absurd (words kelvinSign among) (by decide)
    exact ⟨others absent ▸ named, absent⟩
  · rintro ⟨wide, absent⟩
    exact (others absent).trans wide

theorem reservedWords_unfed {word : String} (reserved : word ∈ reservedWords) : '\n' ∉ word.toList := by
  have unfed : ∀ word ∈ reservedWords, '\n' ∉ word.toList := by decide +kernel
  exact unfed word reserved

theorem fed_unreserved {s : String} (fed : Fed wideName s.toList) : lowerText s ∉ reservedWords := by
  intro reserved
  refine reservedWords_unfed reserved ?_
  rw [lowerText, lower, lowerAfter_near (fed_near fed), String.toList_ofList]
  obtain ⟨name, -, whole⟩ := fed
  rw [whole, List.map_append]
  exact List.mem_append_right _ (List.mem_singleton_self _)

theorem feed_last {isName : List Char → Bool} (fed : Fed isName text) : '\n' ∈ text := by
  obtain ⟨name, -, rfl⟩ := fed
  exact List.mem_append_right _ (List.mem_singleton_self _)

theorem fed_unshaped {isName : List Char → Bool} {first later : Char → Bool} (fed : Fed isName text)
    (no_first : first '\n' = false) (no_later : later '\n' = false) : ¬ shaped first later text = true := by
  intro named
  have unfed : ∀ c ∈ text, c ≠ '\n' := shaped_all named
    (fun c letter feed => by rw [feed, no_first] at letter; cases letter)
    fun c word feed => by rw [feed, no_later] at word; cases word
  exact unfed _ (feed_last fed) rfl

theorem fed_not_wide (fed : Fed wideName text) : ¬ wideName text = true := fed_unshaped fed rfl rfl

theorem fed_not_small (fed : Fed smallName text) : ¬ smallName text = true := fed_unshaped fed rfl rfl

variable {s : String} {i : Identifier}

theorem needsQuotes_iff : needsQuotes text = false ↔ String.ofList text ∉ reservedWords ∧ plainName text = true := by
  rw [needsQuotes, Bool.or_eq_false_iff, Bool.not_eq_false', List.contains_eq_mem, decide_eq_false_iff_not]

theorem ofCql_iff (bare : enclosed? s.toList = none) : Identifier.ofCql s = .ok i ↔
    (wideName s.toList = true ∨ Fed wideName s.toList) ∧ lowerText s ∉ reservedWords ∧ i = ⟨lowerText s⟩ := by
  rw [Identifier.ofCql, bare, ← plainName_lower_iff]
  dsimp only
  cases quotes : needsQuotes (lower s.toList) with
  | true =>
    have refused : ¬ (lowerText s ∉ reservedWords ∧ plainName (lower s.toList) = true) := fun fits => by
      rw [needsQuotes_iff.mpr fits] at quotes
      cases quotes
    simp only [if_true, reduceCtorEq, false_iff]
    exact fun fits => refused ⟨fits.2.1, fits.1⟩
  | false =>
    obtain ⟨unreserved, plain⟩ := needsQuotes_iff.mp quotes
    simp only [Bool.false_eq_true, if_false, Except.ok.injEq, plain, true_and]
    exact ⟨fun read => ⟨unreserved, read.symm⟩, fun read => read.2.symm⟩

theorem ofCql_exact (bare : enclosed? s.toList = none) : Identifier.ofCql s = .ok i ↔
    (grammarName s.toList = true ∧ lowerText s ∉ reservedWords ∨ ReadBeyond s) ∧ i = ⟨lowerText s⟩ := by
  rw [ofCql_iff bare, ← and_assoc, grammarName_iff, ReadBeyond]
  refine and_congr_left' ?_
  have unreserved : Fed wideName s.toList → lowerText s ∉ reservedWords := fed_unreserved
  tauto

theorem readBeyond_ungrammatical (beyond : ReadBeyond s) : ¬ grammarName s.toList = true := by
  rw [grammarName_iff]
  rcases beyond with fed | ⟨-, kelvin, -⟩
  · exact fun named => fed_not_wide fed named.1
  · exact fun named => named.2 kelvin

theorem readByGrammar_iff (bare : enclosed? s.toList = none) : ReadByGrammar s ↔ ¬ ReadBeyond s := by
  simp only [ReadByGrammar, ofCql_exact bare, ← and_assoc]
  constructor
  · intro same beyond
    exact readBeyond_ungrammatical beyond ((same ⟨lowerText s⟩).mp ⟨.inr beyond, rfl⟩).1.1
  · intro within i
    exact and_congr_left' ⟨fun read => read.resolve_right within, .inl⟩

theorem escape_length (name : List Char) : name.length ≤ (escape name).length := by
  induction name with
  | nil => exact Nat.le_refl _
  | cons c rest ih =>
    have own : 1 ≤ (if c = doubleQuote then [doubleQuote, doubleQuote] else [c]).length := by split <;> simp
    rw [escape, List.flatMap_cons, List.length_append, ← escape, List.length_cons]
    omega

theorem toCql_bare_iff : i.toCql true = i.internal ↔ needsQuotes i.internal.toList = false := by
  rw [Identifier.toCql, Bool.true_and]
  cases needsQuotes i.internal.toList with
  | true =>
    have longer : String.ofList (doubleQuote :: escape i.internal.toList ++ [doubleQuote]) ≠ i.internal := by
      intro same
      have lengths := congrArg (fun s => s.toList.length) same
      have grown := escape_length i.internal.toList
      simp only [String.toList_ofList, List.length_append, List.length_cons, List.length_nil] at lengths
      omega
    simpa using longer
  | false => simp

theorem toCql_exact : Identifier.toCql ⟨s⟩ true = s ↔
    smallName s.toList = true ∧ s ∉ reservedWords ∨ Fed smallName s.toList := by
  rw [toCql_bare_iff (i := ⟨s⟩), needsQuotes_iff, plainName_iff, String.ofList_toList]
  have unreserved (fed : Fed smallName s.toList) : s ∉ reservedWords :=
    fun reserved => reservedWords_unfed reserved (feed_last fed)
  tauto

theorem writtenByGrammar_iff : WrittenByGrammar s ↔ ¬ Fed smallName s.toList := by
  rw [WrittenByGrammar, toCql_exact]
  have apart : Fed smallName s.toList → ¬ smallName s.toList = true := fed_not_small
  tauto

-- A text without quotes is read where the grammar has it, where a line feed stands behind
-- such a name, and where Kelvin signs are among its letters, always as its lower case. So
-- reading keeps to the grammar but for the latter two, and writing but for the line feed.
theorem grammar_exact (text name : String) (bare : enclosed? text.toList = none) :
    (∀ i, Identifier.ofCql text = .ok i ↔
      (grammarName text.toList = true ∧ lowerText text ∉ reservedWords ∨ ReadBeyond text) ∧ i = ⟨lowerText text⟩) ∧
      (ReadByGrammar text ↔ ¬ ReadBeyond text) ∧ (WrittenByGrammar name ↔ ¬ Fed smallName name.toList) :=
  ⟨fun _ => ofCql_exact bare, readByGrammar_iff bare, writtenByGrammar_iff⟩

end Reading

theorem stock_grammatical : enclosed? "Stock_1".toList = none ∧ ReadByGrammar "Stock_1" ∧ WrittenByGrammar "stock_1" := by
  have bare : enclosed? "Stock_1".toList = none := by decide
  obtain ⟨-, reads, writes⟩ := grammar_exact "Stock_1" "stock_1" bare
  refine ⟨bare, reads.mpr ?_, writes.mpr fun fed => absurd (feed_last fed) (by decide)⟩
  rintro (fed | ⟨-, kelvin, -⟩)
  · exact absurd (feed_last fed) (by decide)
  · exact absurd kelvin (by decide)

-- A line feed is read as part of a name and written without quotes, and a Kelvin sign is
-- read as the letter of ASCII that it comes down to.
theorem feed_ungrammatical :
    (enclosed? "ks\n".toList = none ∧ Identifier.ofCql "ks\n" = .ok ⟨"ks\n"⟩ ∧ ¬ ReadByGrammar "ks\n") ∧
      (enclosed? "\u212as".toList = none ∧ Identifier.ofCql "\u212as" = .ok ⟨"ks"⟩ ∧ ¬ ReadByGrammar "\u212as") ∧
      Identifier.toCql ⟨"ks\n"⟩ true = "ks\n" ∧ ¬ WrittenByGrammar "ks\n" := by
  have feed : Identifier.ofCql "ks\n" = .ok ⟨"ks\n"⟩ := by decide +kernel
  have kelvin : Identifier.ofCql "\u212as" = .ok ⟨"ks"⟩ := by decide +kernel
  have bare : Identifier.toCql ⟨"ks\n"⟩ true = "ks\n" := by decide +kernel
  refine ⟨⟨by decide, feed, fun read => ?_⟩, ⟨by decide, kelvin, fun read => ?_⟩, bare, fun written => ?_⟩
  · exact absurd ((read _).mp feed).1 (by decide)
  · exact absurd ((read _).mp kelvin).1 (by decide)
  · exact absurd (written.mp bare).1 (by decide)

end DaoMapper.Cql
