import DaoMapper.Proofs.FieldName

-- Which name a suggestion gets: the cleaned suggestion, or else the first of its numbered
-- forms that nothing has. The search is stated without the bound that the function puts on it.
namespace DaoMapper.Mapper

-- Only a search that ends has a derivation.
inductive Search (used : String → Prop) (base : String) : String → Nat → String → Prop where
  | free (unused : ¬ used candidate) : Search used base candidate n candidate
  | next (taken : used candidate) (further : Search used base (numbered base n) (n + 1) name) :
      Search used base candidate n name

section search

variable {used : String → Prop} {base candidate name other : String} {n : Nat}

theorem search_unique (one : Search used base candidate n name) (two : Search used base candidate n other) :
    name = other := by
  induction one with
  | free unused =>
    cases two with
    | free _ => rfl
    | next taken _ => exact absurd taken unused
  | next taken _ ih =>
    cases two with
    | free unused => exact absurd taken unused
    | next _ further => exact ih further

theorem search_free (found : Search used base candidate n name) : ¬ used name := by
  induction found with
  | free unused => exact unused
  | next _ _ ih => exact ih

theorem search_kept (unused : ¬ used candidate) (found : Search used base candidate n name) : name = candidate :=
  search_unique found (.free unused)

theorem search_least (taken : used candidate) (found : Search used base candidate n name) :
    ∃ k, n ≤ k ∧ name = numbered base k ∧ ∀ j, n ≤ j → j < k → used (numbered base j) := by
  induction found with
  | free unused => exact absurd taken unused
  | @next candidate n name _ further ih =>
    by_cases again : used (numbered base n)
    · obtain ⟨k, later, same, below⟩ := ih again
      refine ⟨k, by omega, same, ?_⟩
      intro j from_ upto
      by_cases here : j = n
      · exact here ▸ again
      · exact below j (by omega) upto
    · refine ⟨n, Nat.le_refl n, search_kept again further, ?_⟩
      intro j from_ upto
      omega

theorem search_of_find {taken : List String}
    (found : ((candidate :: (List.range m).map fun i => numbered base (i + n)).find? fun c => !taken.contains c) =
      some name) : Search (· ∈ taken) base candidate n name := by
  induction m generalizing candidate n with
  | zero =>
    have here := List.mem_of_find?_eq_some found
    have unused := List.find?_some found
    simp only [List.range_zero, List.map_nil, List.mem_singleton] at here
    subst here
    exact .free (by simpa using unused)
  | succ m ih =>
    by_cases has : candidate ∈ taken
    · rw [List.find?_cons_of_neg (by simpa using has), List.range_succ_eq_map, List.map_cons, List.map_map,
        Nat.zero_add] at found
      refine .next has (ih ?_)
      rw [← found]
      congr 2
      apply List.map_congr_left
      intro i _
      rw [Function.comp_apply]
      congr 1
      omega
    · rw [List.find?_cons_of_pos (by simpa using has)] at found
      obtain rfl := Option.some.inj found
      exact .free has

theorem freeName_search (taken : List String) (base : String) :
    Search (· ∈ taken) base base 2 (freeName taken base) := by
  obtain ⟨name, found⟩ := candidate_free taken base
  unfold freeName
  rw [found]
  exact search_of_find found

end search

def cleaned (suggestion : String) : String := String.ofList (sanitize suggestion.toList)

theorem uniqueField_search (taken : List String) (suggestion : String) :
    Search (· ∈ taken) (cleaned suggestion) (cleaned suggestion) 2 (uniqueField taken suggestion) :=
  freeName_search _ _

-- The search from a text ends, with one name only: the text itself where nothing has it,
-- otherwise the text with the least number from 2 on that is free.
structure Numbered (used : String → Prop) (base name : String) : Prop where
  ends : ∀ other, Search used base base 2 other ↔ other = name
  kept : ¬ used base → name = base
  least : used base → ∃ n, 2 ≤ n ∧ name = numbered base n ∧ ¬ used name ∧
    ∀ k, 2 ≤ k → k < n → used (numbered base k)

theorem numbered_of_search {used : String → Prop} (found : Search used base base 2 name) : Numbered used base name where
  ends other := by
    constructor
    · intro another
      exact search_unique another found
    · intro same
      exact same ▸ found
  kept unused := search_kept unused found
  least taken := by
    obtain ⟨n, from_, same, below⟩ := search_least taken found
    exact ⟨n, from_, same, search_free found, below⟩

theorem uniqueFields_each {suggestions : List String} (there : suggestions[i]? = some suggestion) (taken : List String) :
    ∃ name, (uniqueFields taken suggestions)[i]? = some name ∧
      Numbered (fun c => c ∈ taken ∨ c ∈ (uniqueFields taken suggestions).take i) (cleaned suggestion) name := by
  induction suggestions generalizing taken i with
  | nil => simp at there
  | cons first rest ih =>
    cases i with
    | zero =>
      obtain rfl := Option.some.inj there
      refine ⟨uniqueField taken first, rfl, numbered_of_search ?_⟩
      simpa using uniqueField_search taken first
    | succ i =>
      obtain ⟨name, chosen, number⟩ := ih there (uniqueField taken first :: taken)
      refine ⟨name, chosen, ?_⟩
      have same : (fun c => c ∈ taken ∨ c ∈ (uniqueFields taken (first :: rest)).take (i + 1)) =
          fun c => c ∈ uniqueField taken first :: taken ∨
            c ∈ (uniqueFields (uniqueField taken first :: taken) rest).take i := by
        funext c
        rw [uniqueFields, List.take_succ_cons, List.mem_cons, List.mem_cons]
        exact propext (or_left_comm.trans or_assoc.symm)
      rw [same]
      exact number

theorem uniqueFields_numbered (reserved suggestions : List String) :
    (uniqueFields reserved suggestions).length = suggestions.length ∧
      (uniqueFields reserved suggestions).Nodup ∧ (∀ name ∈ uniqueFields reserved suggestions, name ∉ reserved) ∧
      ∀ i suggestion, suggestions[i]? = some suggestion →
        ∃ name, (uniqueFields reserved suggestions)[i]? = some name ∧
          Numbered (fun c => c ∈ reserved ∨ c ∈ (uniqueFields reserved suggestions).take i) (cleaned suggestion) name :=
  ⟨uniqueFields_length _ _, uniqueFields_distinct _ _, uniqueFields_free _ _,
    fun _ _ there => uniqueFields_each there reserved⟩

-- The second suggestion is called like the second name of the first one.
example : uniqueFields ["cache"] ["cache", "cache_2", "cache"] = ["cache_2", "cache_2_2", "cache_3"] := by decide

end DaoMapper.Mapper
