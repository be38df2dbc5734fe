import DaoMapper.Cql.CacheKey

-- Names and their CQL forms. Reading a form that was written gives the name back, so no
-- two names share a form, and keys differ only where the names do.
namespace DaoMapper.Cql

open Text

inductive Spelling where
  | absent
  | known (internal : String)
  | written (internal : String) (pretty : Bool)

namespace Spelling

def arg : Spelling → NameArg
  | absent => .absent
  | known internal => .known ⟨internal⟩
  | written internal pretty => .cql (Identifier.toCql ⟨internal⟩ pretty)

def internal? : Spelling → Option String
  | absent => none
  | known internal => some internal
  | written internal _ => some internal

end Spelling

theorem unescape_escape (name : List Char) : unescape (escape name) = name := by
  induction name with
  | nil => rfl
  | cons c rest ih =>
    rw [escape, List.flatMap_cons]
    change unescape (_ ++ escape rest) = _
    by_cases quote : c = doubleQuote
    · rw [if_pos quote, List.cons_append, List.cons_append, List.nil_append, unescape, if_pos ⟨rfl, rfl⟩, ih, quote]
    · rw [if_neg quote, List.cons_append, List.nil_append]
      cases shape : escape rest with
      | nil =>
        rw [shape] at ih
        rw [← ih]
        rfl
      | cons d others =>
        rw [unescape, if_neg (fun both => quote both.1), ← shape, ih]

theorem enclosed?_quoted (inner : List Char) : enclosed? (doubleQuote :: inner ++ [doubleQuote]) = some inner := by
  rw [List.cons_append, enclosed?, if_pos ⟨rfl, List.getLast?_concat⟩, List.dropLast_concat]

theorem plainName_chars {name : List Char} (plain : plainName name = true) :
    ∀ c ∈ name, nameChar c = true ∨ c = '\n' := by
  cases name with
  | nil => cases plain
  | cons first rest =>
    rw [plainName, Bool.and_eq_true, Bool.or_eq_true, beq_iff_eq, beq_iff_eq] at plain
    obtain ⟨letter, behind⟩ := plain
    intro c among
    rcases List.mem_cons.mp among with rfl | later
    · exact .inl (by simp [nameChar, letter])
    · rw [← List.takeWhile_append_dropWhile (p := nameChar) (l := rest), List.mem_append] at later
      rcases later with name | feed
      · exact .inl (List.all_eq_true.mp List.all_takeWhile c name)
      · rcases behind with none_left | one_left
        · rw [none_left] at feed
          cases feed
        · rw [one_left] at feed
          exact .inr (List.mem_singleton.mp feed)

theorem plain_code {c : Char} (plain : nameChar c = true ∨ c = '\n') :
    97 ≤ c.toNat ∧ c.toNat ≤ 122 ∨ 48 ≤ c.toNat ∧ c.toNat ≤ 57 ∨ c.toNat = 95 ∨ c.toNat = 10 := by
  rcases plain with name | rfl
  · simp only [nameChar, smallLetter, Bool.or_eq_true, Bool.and_eq_true, decide_eq_true_eq, beq_iff_eq, Char.le_def,
      UInt32.le_iff_toNat_le] at name
    rcases name with (letter | digit) | rfl
    · exact .inl letter
    · exact .inr (.inl digit)
    · exact .inr (.inr (.inl rfl))
  · exact .inr (.inr (.inr rfl))

theorem lowerChar_plain {c : Char} (plain : nameChar c = true ∨ c = '\n') : c ≠ 'Σ' ∧ lowerChar c = [c] := by
  have code := plain_code plain
  constructor
  · rintro rfl
    have sigma : 'Σ'.toNat = 931 := rfl
    omega
  · have ascii : c.toNat < 128 := by omega
    have small : ¬ (c.val ≥ 'A'.val ∧ c.val ≤ 'Z'.val) := by
      rintro ⟨low, high⟩
      have above : 65 ≤ c.toNat := low
      have below : c.toNat ≤ 90 := high
      omega
    have kept : c.toLower = c := dif_neg small
    rw [lowerChar, if_pos ascii, kept]

theorem lowerAfter_fixed {text : List Char} (fixed : ∀ c ∈ text, c ≠ 'Σ' ∧ lowerChar c = [c]) (before : List Char) :
    lowerAfter before text = text := by
  induction text generalizing before with
  | nil => rfl
  | cons c rest ih =>
    obtain ⟨no_sigma, same⟩ := fixed c (List.mem_cons_self ..)
    rw [lowerAfter, if_neg no_sigma, same, ih fun d among => fixed d (List.mem_cons_of_mem _ among)]
    rfl

-- A name that needs no quotes is in lower case already and cannot be taken for a quoted one.
theorem plainName_lower {name : List Char} (plain : plainName name = true) : lower name = name :=
  lowerAfter_fixed (fun c among => lowerChar_plain (plainName_chars plain c among)) []

theorem plainName_unquoted {name : List Char} (plain : plainName name = true) : enclosed? name = none := by
  cases name with
  | nil => rfl
  | cons first rest =>
    have letter := plainName_chars plain first (List.mem_cons_self ..)
    have no_quote : first ≠ doubleQuote := by
      rintro rfl
      rcases letter with name | feed
      · cases name
      · cases feed
    rw [enclosed?, if_neg fun both => no_quote both.1]

theorem ofCql_plain {text : String} (bare : needsQuotes text.toList = false) : Identifier.ofCql text = .ok ⟨text⟩ := by
  have plain : plainName text.toList = true := by
    rw [needsQuotes, Bool.or_eq_false_iff, Bool.not_eq_false'] at bare
    exact bare.2
  rw [Identifier.ofCql, plainName_unquoted plain]
  simp only [plainName_lower plain, bare, Bool.false_eq_true, if_false, String.ofList_toList]

theorem ofCql_quoted (inner : List Char) :
    Identifier.ofCql (String.ofList (doubleQuote :: inner ++ [doubleQuote])) = .ok ⟨String.ofList (unescape inner)⟩ := by
  rw [Identifier.ofCql, String.toList_ofList, enclosed?_quoted]

theorem ofCql_toCql (i : Identifier) (pretty : Bool) : Identifier.ofCql (i.toCql pretty) = .ok i := by
  rw [Identifier.toCql]
  split
  · rename_i bare
    rw [Bool.and_eq_true, Bool.not_eq_true'] at bare
    exact ofCql_plain bare.2
  · rw [ofCql_quoted, unescape_escape, String.ofList_toList]

theorem toCql_distinct {i j : Identifier} (different : i ≠ j) (pretty other : Bool) : i.toCql pretty ≠ j.toCql other := by
  intro same
  have read := ofCql_toCql i pretty
  rw [same, ofCql_toCql] at read
  exact different (Except.ok.inj read).symm

theorem Spelling.resolve (side : Spelling) : side.arg.resolve = .ok (side.internal?.map Identifier.mk) := by
  cases side with
  | absent | known => rfl
  | written internal pretty =>
    rw [arg, NameArg.resolve, ofCql_toCql]
    rfl

theorem Spelling.key (keyspace table : Spelling) : CacheKey.ofArgs keyspace.arg table.arg =
    .ok ⟨keyspace.internal?.map Identifier.mk, table.internal?.map Identifier.mk⟩ := by
  rw [CacheKey.ofArgs, keyspace.resolve, table.resolve]
  rfl

theorem sides_same {a b : Option String} : a.map Identifier.mk = b.map Identifier.mk ↔ a = b := by
  constructor
  · intro same
    cases a <;> cases b <;> simp_all
  · rintro rfl
    rfl

-- Reading undoes writing, plain or pretty, for every name; and a key whose sides are given
-- in any of these ways is there, and equals another just where the sides name the same.
theorem reading_undoes_writing (i : Identifier) (pretty : Bool) (keyspace table : Spelling) :
    Identifier.ofCql (i.toCql pretty) = .ok i ∧
      (∀ j other, i ≠ j → i.toCql pretty ≠ j.toCql other) ∧
      ∃ key, CacheKey.ofArgs keyspace.arg table.arg = .ok key ∧
        ∀ keyspace' table' : Spelling, ∃ key', CacheKey.ofArgs keyspace'.arg table'.arg = .ok key' ∧
          (key = key' ↔ keyspace.internal? = keyspace'.internal? ∧ table.internal? = table'.internal?) := by
  refine ⟨ofCql_toCql i pretty, fun j other different => toCql_distinct different pretty other, ?_⟩
  refine ⟨_, keyspace.key table, fun keyspace' table' => ⟨_, keyspace'.key table', ?_⟩⟩
  rw [CacheKey.mk.injEq, sides_same, sides_same]

end DaoMapper.Cql
