import DaoMapper.Proofs.NameForms

-- Texts in double quotes. A quote between the outer ones is meant to be doubled, but one
-- that is not is read all the same, as if it were; so writing gives back just the texts in
-- which all quotes are doubled, and tells no others apart from these.
namespace DaoMapper.Cql

open Text

inductive Paired : List Char → Prop where
  | nil : Paired []
  | plain (other : c ≠ doubleQuote) (rest : Paired text) : Paired (c :: text)
  | pair (rest : Paired text) : Paired (doubleQuote :: doubleQuote :: text)

def evened : List Char → List Char
  | [] => []
  | [c] => if c = doubleQuote then [doubleQuote, doubleQuote] else [c]
  | c :: d :: rest =>
    if c ≠ doubleQuote then c :: evened (d :: rest)
    else if d = doubleQuote then doubleQuote :: doubleQuote :: evened rest
    else doubleQuote :: doubleQuote :: evened (d :: rest)

def quotedText (inner : List Char) : String := String.ofList (doubleQuote :: inner ++ [doubleQuote])

section Pairs

variable {text other name : List Char} {c : Char}

theorem unescape_plain (other : c ≠ doubleQuote) (rest : List Char) : unescape (c :: rest) = c :: unescape rest := by
  cases rest with
  | nil => rfl
  | cons d rest => rw [unescape, if_neg fun both => other both.1]

theorem unescape_pair (rest : List Char) :
    unescape (doubleQuote :: doubleQuote :: rest) = doubleQuote :: unescape rest := by
  rw [unescape, if_pos ⟨rfl, rfl⟩]

theorem escape_plain (other : c ≠ doubleQuote) (rest : List Char) : escape (c :: rest) = c :: escape rest := by
  rw [escape, List.flatMap_cons, if_neg other]
  rfl

theorem escape_quote (rest : List Char) :
    escape (doubleQuote :: rest) = doubleQuote :: doubleQuote :: escape rest := by
  rw [escape, List.flatMap_cons, if_pos rfl]
  rfl

theorem paired_escape (name : List Char) : Paired (escape name) := by
  induction name with
  | nil => exact .nil
  | cons c rest ih =>
    by_cases quote : c = doubleQuote
    · subst quote
      rw [escape_quote]
      exact .pair ih
    · rw [escape_plain quote]
      exact .plain quote ih

theorem escape_unescape (paired : Paired text) : escape (unescape text) = text := by
  induction paired with
  | nil => rfl
  | plain other _ ih => rw [unescape_plain other, escape_plain other, ih]
  | pair _ ih => rw [unescape_pair, escape_quote, ih]

theorem escape_unescape_evened (text : List Char) : escape (unescape text) = evened text := by
  fun_induction evened text with
  | case1 => rfl
  | case2 => exact escape_quote []
  | case3 c other => exact escape_plain other []
  | case4 c d rest other ih => rw [unescape_plain other, escape_plain other, ih]
  | case5 c rest quote ih =>
    rw [Decidable.not_not.mp quote, unescape_pair, escape_quote, ih]
  | case6 c d rest quote other ih =>
    rw [Decidable.not_not.mp quote, unescape, if_neg fun both => other both.2, escape_quote, ih]

theorem evened_same_iff : evened text = text ↔ Paired text := by
  rw [← escape_unescape_evened]
  refine ⟨fun same => ?_, escape_unescape⟩
  rw [← same]
  exact paired_escape _

theorem unescape_same_iff : unescape text = unescape other ↔ evened text = evened other := by
  rw [← escape_unescape_evened, ← escape_unescape_evened]
  refine ⟨congrArg escape, fun same => ?_⟩
  rw [← unescape_escape (unescape text), same, unescape_escape]

end Pairs

section Reading

variable {inner other : List Char} {i j : Identifier}

theorem quotedText_inj : quotedText inner = quotedText other ↔ inner = other := by
  refine ⟨fun same => ?_, congrArg quotedText⟩
  rw [quotedText, quotedText, String.ofList_inj, List.append_left_inj, List.cons.injEq] at same
  exact same.2

theorem toCql_quoted (i : Identifier) : i.toCql false = quotedText (escape i.internal.toList) := rfl

theorem outer_quotes {text : String} (opens : text.toList.head? = some doubleQuote)
    (closes : text.toList.getLast? = some doubleQuote) : text = "\x22" ∨ ∃ inner, text = quotedText inner := by
  cases chars : text.toList with
  | nil =>
    rw [chars] at opens
    cases opens
  | cons first rest =>
    rw [chars] at opens closes
    obtain rfl : first = doubleQuote := Option.some.inj opens
    rcases List.eq_nil_or_concat rest with rfl | ⟨inner, last, rfl⟩
    · exact .inl (String.toList_inj.mp chars)
    · rw [List.concat_eq_append, ← List.cons_append] at chars closes
      rw [List.getLast?_concat] at closes
      obtain rfl : last = doubleQuote := Option.some.inj closes
      exact .inr ⟨inner, by rw [quotedText, ← chars, String.ofList_toList]⟩

structure Denotes (inner : List Char) (i : Identifier) : Prop where
  read : Identifier.ofCql (quotedText inner) = .ok i
  written : i.toCql false = quotedText (evened inner)
  paired : Paired (evened inner)
  faithful : i.toCql false = quotedText inner ↔ Paired inner
  keyspace : ∀ arg side, arg.resolve = .ok side → CacheKey.ofArgs (.cql (quotedText inner)) arg = .ok ⟨some i, side⟩
  table : ∀ arg side, arg.resolve = .ok side → CacheKey.ofArgs arg (.cql (quotedText inner)) = .ok ⟨side, some i⟩
  same : ∀ other, Identifier.ofCql (quotedText other) = .ok i ↔ evened other = evened inner
  distinct : ∀ other, Paired inner → Paired other → Identifier.ofCql (quotedText other) = .ok i → other = inner

theorem ofCql_same_iff : Identifier.ofCql (quotedText other) = Identifier.ofCql (quotedText inner) ↔
    evened other = evened inner := by
  rw [quotedText, quotedText, ofCql_quoted, ofCql_quoted, Except.ok.injEq, Identifier.mk.injEq, String.ofList_inj,
    unescape_same_iff]

theorem quoted_denotes (inner : List Char) : Denotes inner ⟨String.ofList (unescape inner)⟩ := by
  have read := ofCql_quoted inner
  have written : Identifier.toCql ⟨String.ofList (unescape inner)⟩ false = quotedText (evened inner) := by
    rw [toCql_quoted, String.toList_ofList, escape_unescape_evened]
  have resolves : (NameArg.cql (quotedText inner)).resolve = .ok (some ⟨String.ofList (unescape inner)⟩) := by
    rw [NameArg.resolve, quotedText, read]
    rfl
  have same (other : List Char) : Identifier.ofCql (quotedText other) = .ok ⟨String.ofList (unescape inner)⟩ ↔
      evened other = evened inner := by
    rw [← ofCql_same_iff, quotedText, quotedText, read]
  refine ⟨read, written, ?_, ?_, ?_, ?_, same, ?_⟩
  · rw [← escape_unescape_evened]
    exact paired_escape _
  · rw [written, quotedText_inj, evened_same_iff]
  · intro arg side given
    rw [CacheKey.ofArgs, resolves, given]
    rfl
  · intro arg side given
    rw [CacheKey.ofArgs, resolves, given]
    rfl
  · intro other paired paired' read'
    rw [← evened_same_iff.mpr paired, ← evened_same_iff.mpr paired', (same other).mp read']

-- Every text with quotes at both ends names something. It is what is written for that name
-- just where all quotes between are doubled, and such texts name different things; any other
-- one stands for the text in which its quotes have the partners they lack. A lone quote is
-- refused.
theorem quoted_exact (text : String) (opens : text.toList.head? = some doubleQuote)
    (closes : text.toList.getLast? = some doubleQuote) :
    text = "\x22" ∧ Identifier.ofCql text = .error (.needsQuotes text) ∨
      ∃ inner i, text = quotedText inner ∧ Denotes inner i := by
  rcases outer_quotes opens closes with rfl | ⟨inner, rfl⟩
  · exact .inl ⟨rfl, rfl⟩
  · exact .inr ⟨inner, _, rfl, quoted_denotes inner⟩

theorem greeting_exact : "\x22say \x22\x22hi\x22\x22\x22".toList.head? = some doubleQuote ∧
    "\x22say \x22\x22hi\x22\x22\x22".toList.getLast? = some doubleQuote ∧
    ∃ inner i, "\x22say \x22\x22hi\x22\x22\x22" = quotedText inner ∧ Denotes inner i ∧
      i.toCql false = "\x22say \x22\x22hi\x22\x22\x22" := by
  have opens : "\x22say \x22\x22hi\x22\x22\x22".toList.head? = some doubleQuote := by decide
  have closes : "\x22say \x22\x22hi\x22\x22\x22".toList.getLast? = some doubleQuote := by decide
  refine ⟨opens, closes, ?_⟩
  rcases quoted_exact _ opens closes with ⟨lone, -⟩ | ⟨inner, i, enclosed, denotes⟩
  · exact absurd lone (by decide)
  · obtain rfl : "say \x22\x22hi\x22\x22".toList = inner := quotedText_inj.mp enclosed
    have paired : Paired "say \x22\x22hi\x22\x22".toList := evened_same_iff.mp (by decide)
    exact ⟨_, i, enclosed, denotes, denotes.faithful.mpr paired⟩

-- A quote that has no partner is read, but written with one, and names what the text with
-- the two of them names.
theorem stray_quote_read :
    (Identifier.ofCql "\x22a\x22b\x22" = .ok ⟨"a\x22b"⟩ ∧ ¬ Paired "a\x22b".toList) ∧
    (Identifier.toCql ⟨"a\x22b"⟩ false = "\x22a\x22\x22b\x22" ∧ "\x22a\x22\x22b\x22" ≠ "\x22a\x22b\x22") ∧
    Identifier.ofCql "\x22a\x22\x22b\x22" = .ok ⟨"a\x22b"⟩ ∧
    CacheKey.ofArgs (.cql "\x22a\x22b\x22") .absent = .ok ⟨some ⟨"a\x22b"⟩, none⟩ ∧
    CacheKey.ofArgs (.cql "\x22a\x22\x22b\x22") .absent = .ok ⟨some ⟨"a\x22b"⟩, none⟩ := by
  refine ⟨⟨rfl, ?_⟩, ⟨rfl, by decide⟩, rfl, rfl, rfl⟩
  rw [← evened_same_iff]
  decide

end Reading

end DaoMapper.Cql
