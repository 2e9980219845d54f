import JsonQuery.Json
import JsonQuery.Proofs.Json.Equal

/-!
# Members set one after another

* `Json.setAll` — sets members one after another.
* `Json.SetInOrder` — what is left of a row of settings: each key once, at its first place, with its last
  value; `Json.setAll_inOrder`, `Json.SetInOrder.unique` — that is what setting them all leaves, and nothing
  else.
* `Json.foldl_setAll` — settings may be merged before they are made.
-/

namespace JsonQuery.Json

variable {key other : String} {value : Json} {members acc a b settings result : Members}

/-- Sets members one after another. -/
def setAll (settings acc : Members) : Members := settings.foldl (fun acc m => insert m.1 m.2 acc) acc

/-- What is left of a row of settings: each key once, in the order of the first settings of the keys, with
the value of its last setting. -/
structure SetInOrder (settings result : Members) : Prop where
  once : (result.map Prod.fst).Nodup
  firstPlace : (result.map Prod.fst).Pairwise fun k l =>
    (settings.map Prod.fst).idxOf k < (settings.map Prod.fst).idxOf l
  lastValue : ∀ key, result.lookup key = settings.reverse.lookup key

/-! ## One setting -/

theorem lookup_insert : (insert key value members).lookup other =
    if other = key then some value else members.lookup other := by
  induction members with
  | nil =>
    by_cases h : other = key
    · simp [insert, h]
    · simp [insert, List.lookup_cons, h, beq_eq_false_iff_ne.2 h]
  | cons m rest ih =>
    obtain ⟨k, v⟩ := m
    unfold insert
    by_cases hk : k = key
    · subst hk
      by_cases h : other = k
      · simp [h]
      · simp [List.lookup_cons, h, beq_eq_false_iff_ne.2 h]
    · rw [if_neg hk]
      by_cases h : other = k
      · simp [h, hk]
      · simp only [List.lookup_cons, beq_eq_false_iff_ne.2 h, ih]

theorem keys_insert_of_mem (h : key ∈ members.map Prod.fst) :
    (insert key value members).map Prod.fst = members.map Prod.fst := by
  induction members with
  | nil => cases h
  | cons m rest ih =>
    obtain ⟨k, v⟩ := m
    unfold insert
    by_cases hk : k = key
    · simp [hk]
    · have hrest : key ∈ rest.map Prod.fst := by simpa [Ne.symm hk] using h
      rw [if_neg hk, List.map_cons, List.map_cons, ih hrest]

theorem insert_of_notMem (h : key ∉ members.map Prod.fst) :
    insert key value members = members ++ [(key, value)] := by
  induction members with
  | nil => rfl
  | cons m rest ih =>
    obtain ⟨k, v⟩ := m
    rw [List.map_cons, List.mem_cons, not_or] at h
    rw [insert, if_neg (Ne.symm h.1), ih h.2, List.cons_append]

theorem lookup_eq_none_iff : members.lookup key = none ↔ key ∉ members.map Prod.fst := by
  rw [List.lookup_eq_none_iff, List.mem_map]
  constructor
  · rintro h ⟨m, hm, rfl⟩
    simpa using h m hm
  · rintro h m hm
    exact bne_iff_ne.2 fun heq => h ⟨m, hm, heq.symm⟩

/-! ## A row of settings -/

theorem setAll_append (settings more acc : Members) :
    setAll (settings ++ more) acc = setAll more (setAll settings acc) := List.foldl_append

theorem ofMembers_eq (settings : Members) : ofMembers settings = .object (setAll settings []) := rfl

/-- A key is left if it has been set. -/
theorem SetInOrder.mem_keys (h : SetInOrder settings result) :
    key ∈ result.map Prod.fst ↔ key ∈ settings.map Prod.fst := by
  have hiff : result.lookup key = none ↔ settings.reverse.lookup key = none := by rw [h.lastValue]
  rw [lookup_eq_none_iff, lookup_eq_none_iff, List.map_reverse, List.mem_reverse] at hiff
  exact not_iff_not.1 hiff

theorem SetInOrder.nil : SetInOrder [] [] := ⟨.nil, .nil, fun _ => rfl⟩

/-- A further setting. -/
theorem SetInOrder.insert (h : SetInOrder settings result) (key : String) (value : Json) :
    SetInOrder (settings ++ [(key, value)]) (insert key value result) where
  once := nodup_keys_insert key value h.once
  firstPlace := by
    -- a key that was set before has kept its place
    have hplace : ∀ {k}, k ∈ result.map Prod.fst →
        ((settings ++ [(key, value)]).map Prod.fst).idxOf k = (settings.map Prod.fst).idxOf k := by
      intro k hk
      rw [List.map_append, List.idxOf_append_of_mem (h.mem_keys.1 hk)]
    have hold : (result.map Prod.fst).Pairwise fun k l =>
        ((settings ++ [(key, value)]).map Prod.fst).idxOf k <
          ((settings ++ [(key, value)]).map Prod.fst).idxOf l :=
      h.firstPlace.imp_of_mem fun hk hl hlt => by rwa [hplace hk, hplace hl]
    by_cases hkey : key ∈ result.map Prod.fst
    · rw [keys_insert_of_mem hkey]
      exact hold
    · have hkeys : (Json.insert key value result).map Prod.fst = result.map Prod.fst ++ [key] := by
        rw [insert_of_notMem hkey, List.map_append, List.map_singleton]
      rw [hkeys]
      refine List.pairwise_append.2 ⟨hold, List.pairwise_singleton _ _, fun k hk l hl => ?_⟩
      obtain rfl := List.mem_singleton.1 hl
      rw [hplace hk, List.map_append, List.idxOf_append_of_notMem (mt h.mem_keys.2 hkey)]
      exact Nat.lt_add_right _ (List.idxOf_lt_length_iff.2 (h.mem_keys.1 hk))
  lastValue other := by
    rw [lookup_insert, h.lastValue, List.reverse_append, List.reverse_singleton, List.singleton_append,
      List.lookup_cons]
    by_cases heq : other = key
    · simp [heq]
    · simp [heq, beq_eq_false_iff_ne.2 heq]

/-- **Settings in order.**  Setting members one after another leaves each key once, at its first place,
with its last value. -/
theorem setAll_inOrder (settings : Members) : SetInOrder settings (setAll settings []) := by
  induction settings using List.reverseRecOn with
  | nil => exact .nil
  | append_singleton settings m ih =>
    rw [setAll_append]
    exact ih.insert m.1 m.2

/-- Settings of unique keys are left as they are. -/
theorem setAll_self (h : (members.map Prod.fst).Nodup) : setAll members [] = members := by
  induction members using List.reverseRecOn with
  | nil => rfl
  | append_singleton members m ih =>
    rw [List.map_append, List.map_singleton] at h
    obtain ⟨hmembers, -, hnew⟩ := List.nodup_append.1 h
    rw [setAll_append, ih hmembers]
    exact insert_of_notMem fun hm => hnew _ hm _ (List.mem_singleton_self _) rfl

/-- Two objects with the same keys in the same order and the same values are the same. -/
theorem eq_of_keys (hkeys : a.map Prod.fst = b.map Prod.fst) (hnodup : (a.map Prod.fst).Nodup)
    (h : ∀ key, a.lookup key = b.lookup key) : a = b := by
  induction a generalizing b with
  | nil => exact (List.map_eq_nil_iff.1 hkeys.symm).symm
  | cons m rest ih =>
    obtain _ | ⟨n, more⟩ := b
    · cases hkeys
    obtain ⟨k, v⟩ := m
    obtain ⟨l, w⟩ := n
    simp only [List.map_cons, List.cons.injEq] at hkeys
    obtain ⟨rfl, hkeys⟩ := hkeys
    rw [List.map_cons, List.nodup_cons] at hnodup
    obtain rfl : v = w := by simpa using h k
    rw [ih hkeys hnodup.2 fun key => ?_]
    by_cases heq : key = k
    · subst heq
      rw [lookup_eq_none_iff.2 hnodup.1, lookup_eq_none_iff.2 (hkeys ▸ hnodup.1)]
    · simpa [List.lookup_cons, beq_eq_false_iff_ne.2 heq] using h key

/-- Nothing else is left of a row of settings. -/
theorem SetInOrder.unique (h : SetInOrder settings a) (h' : SetInOrder settings b) : a = b := by
  have hperm : (a.map Prod.fst).Perm (b.map Prod.fst) :=
    (List.perm_ext_iff_of_nodup h.once h'.once).2 fun _ => h.mem_keys.trans h'.mem_keys.symm
  have hkeys : a.map Prod.fst = b.map Prod.fst :=
    hperm.eq_of_pairwise (fun k l _ _ hlt hgt => absurd hlt (Nat.lt_asymm hgt)) h.firstPlace h'.firstPlace
  exact eq_of_keys hkeys h.once fun key => (h.lastValue key).trans (h'.lastValue key).symm

theorem lookup_reverse (h : (members.map Prod.fst).Nodup) (key : String) :
    members.reverse.lookup key = members.lookup key := by
  cases hlookup : members.lookup key with
  | none =>
    rw [lookup_eq_none_iff, List.map_reverse, List.mem_reverse]
    exact lookup_eq_none_iff.1 hlookup
  | some v =>
    have hnodup : (members.reverse.map Prod.fst).Nodup := by
      rw [List.map_reverse]
      exact List.nodup_reverse.2 h
    exact lookup_of_mem hnodup (List.mem_reverse.2 (mem_of_lookup hlookup))

/-- An object with unique keys that is set twice is left as it is. -/
theorem setInOrder_twice (h : (members.map Prod.fst).Nodup) : SetInOrder (members ++ members) members where
  once := h
  firstPlace := by
    refine (List.pairwise_iff_getElem.2 fun i j hi hj hij => ?_)
    have hplace : ∀ i (hi : i < (members.map Prod.fst).length),
        ((members ++ members).map Prod.fst).idxOf (members.map Prod.fst)[i] = i := fun i hi => by
      rw [List.map_append, List.idxOf_append_of_mem (List.getElem_mem hi), h.idxOf_getElem]
    rw [hplace, hplace]
    exact hij
  lastValue key := by
    rw [List.reverse_append, List.lookup_append, Option.or_self, lookup_reverse h]

/-! ## Settings that are merged first -/

theorem insert_insert (key : String) (value old : Json) (members : Members) :
    insert key value (insert key old members) = insert key value members := by
  induction members with
  | nil => simp [insert]
  | cons m rest ih =>
    obtain ⟨k, v⟩ := m
    by_cases hk : k = key
    · simp [insert, hk]
    · simp [insert, hk, ih]

/-- The value of a key that is there may be set before or behind another key. -/
theorem insert_comm (hne : other ≠ key) (hkey : key ∈ members.map Prod.fst) (value old : Json) :
    insert key value (insert other old members) = insert other old (insert key value members) := by
  induction members with
  | nil => cases hkey
  | cons m rest ih =>
    obtain ⟨k, v⟩ := m
    by_cases hk : k = key
    · subst hk
      simp [insert, hne.symm]
    · have hrest : key ∈ rest.map Prod.fst := by simpa [Ne.symm hk] using hkey
      by_cases ho : k = other
      · simp [insert, ho, hne]
      · simp [insert, hk, ho, ih hrest]

/-- The value of a key that is there may be set before or behind settings of other keys. -/
theorem insert_setAll (hkey : key ∈ acc.map Prod.fst) (h : key ∉ settings.map Prod.fst) :
    insert key value (setAll settings acc) = setAll settings (insert key value acc) := by
  induction settings generalizing acc with
  | nil => rfl
  | cons m rest ih =>
    rw [List.map_cons, List.mem_cons, not_or] at h
    show insert key value (setAll rest (insert m.1 m.2 acc)) = setAll rest (insert m.1 m.2 (insert key value acc))
    rw [ih ((mem_keys_insert ..).2 (.inr hkey)) h.2, insert_comm (Ne.symm h.1) hkey]

/-- A member may be set before the members are, or behind them. -/
theorem setAll_insert (h : (members.map Prod.fst).Nodup) (acc : Members) :
    setAll (insert key value members) acc = insert key value (setAll members acc) := by
  induction members generalizing acc with
  | nil => rfl
  | cons m rest ih =>
    obtain ⟨k, v⟩ := m
    rw [List.map_cons, List.nodup_cons] at h
    by_cases hk : k = key
    · subst hk
      rw [insert, if_pos rfl]
      show setAll rest (insert k value acc) = insert k value (setAll rest (insert k v acc))
      rw [insert_setAll ((mem_keys_insert ..).2 (.inl rfl)) h.1, insert_insert]
    · rw [insert, if_neg hk]
      exact ih h.2 _

/-- **Settings may be merged before they are made.** -/
theorem setAll_setAll (settings acc : Members) : setAll (setAll settings []) acc = setAll settings acc := by
  induction settings using List.reverseRecOn with
  | nil => rfl
  | append_singleton settings m ih =>
    rw [setAll_append, setAll_append]
    show setAll (insert m.1 m.2 (setAll settings [])) acc = insert m.1 m.2 (setAll settings acc)
    rw [setAll_insert (setAll_inOrder settings).once, ih]

/-- Settings may be merged group by group. -/
theorem setAll_groups (groups : List Members) (acc : Members) :
    setAll (groups.map fun g => setAll g []).flatten acc = setAll groups.flatten acc := by
  induction groups generalizing acc with
  | nil => rfl
  | cons g rest ih =>
    rw [List.map_cons, List.flatten_cons, List.flatten_cons, setAll_append, setAll_append, setAll_setAll, ih]

end JsonQuery.Json
