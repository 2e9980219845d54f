import JsonQuery.Registry

/-!
# Looking up functions

* `Registry.find?_register` — registering a function changes the look-up of its own names only.
* `Registry.find?_ofList` — a function that is found is one of the list, under one of its names.
-/

namespace JsonQuery.Registry

variable {n name : String} {f g : Function}

theorem lookup_put (entries : List (String × Function)) :
    (put name f entries).lookup n = if n = name then some f else entries.lookup n := by
  induction entries with
  | nil =>
    by_cases hn : n = name
    · simp [put, hn]
    · simp [put, List.lookup_cons, hn, beq_eq_false_iff_ne.2 hn]
  | cons entry rest ih =>
    obtain ⟨m, g⟩ := entry
    unfold put
    by_cases hm : m = name
    · subst hm
      by_cases hn : n = m
      · simp [hn]
      · simp [List.lookup_cons, hn, beq_eq_false_iff_ne.2 hn]
    · rw [if_neg hm]
      by_cases hn : n = m
      · simp [hn, hm]
      · simp only [List.lookup_cons, beq_eq_false_iff_ne.2 hn, ih]

/-- Registering a function changes the look-up of its own names only. -/
theorem find?_register (r : Registry) :
    (r.register f).find? n = if n ∈ f.name :: f.aliases then some f else r.find? n := by
  have hfold : ∀ (names : List String) (entries : List (String × Function)),
      (names.foldl (fun entries name => put name f entries) entries).lookup n =
        if n ∈ names then some f else entries.lookup n := by
    intro names
    induction names with
    | nil => intro entries; simp
    | cons name rest ih =>
      intro entries
      rw [List.foldl_cons, ih, lookup_put]
      by_cases hrest : n ∈ rest
      · simp [hrest]
      · by_cases hn : n = name <;> simp [hrest, hn]
  exact hfold _ _

theorem find?_foldl {fs : List Function} : ∀ {r : Registry},
    (fs.foldl register r).find? n = some f →
      (f ∈ fs ∧ n ∈ f.name :: f.aliases) ∨ r.find? n = some f := by
  induction fs with
  | nil => intro r h; exact .inr h
  | cons g rest ih =>
    intro r h
    rcases ih h with ⟨hmem, hname⟩ | h
    · exact .inl ⟨List.mem_cons_of_mem _ hmem, hname⟩
    · rw [find?_register] at h
      split at h
      · rename_i hname
        cases h
        exact .inl ⟨List.mem_cons_self, hname⟩
      · exact .inr h

/-- A function that is found is one of the list, under one of its names. -/
theorem find?_ofList {fs : List Function} (h : (ofList fs).find? n = some f) :
    f ∈ fs ∧ n ∈ f.name :: f.aliases := by
  rcases find?_foldl h with h | h
  · exact h
  · cases h

end JsonQuery.Registry
