import JsonQuery.Proofs.Library.Sorting

/-!
# Extremes

* `FirstExtreme` — the place of an extreme key, the first one of those that are equal to it; there is one
  such place only.
* `extreme?_first` — the scan for an extreme key finds this place.
* `SortedAlong.first`, `SortedAlong.last` — so does a stable sort: in front for the least key, and at the
  end of the sorted reverse for the greatest.
* `extremes_of_sort` — `min_by`, `max_by` and `sort_by` agree, and so do `min`, `max` and `sort`.
-/

namespace JsonQuery

/-- Of two failures each is of the kind of the other: they are the same, or both are type faults. -/
inductive Failure.SameKind : Failure → Failure → Prop
  | refl (f : Failure) : SameKind f f
  | type (fault fault' : TypeFault) : SameKind (.type fault) (.type fault')

namespace Library

variable {rank : Json → Json → Ordering} {wanted : Ordering} {keys items : List Json} {i j : Nat}

/-! ## Places of extreme keys -/

/-- The key at the place `i` is extreme, and of the keys that are equal to it it is the first. -/
def FirstExtreme (wanted : Ordering) (keys : List Json) (i : Nat) : Prop :=
  i < keys.length ∧ ∀ j < keys.length, j ≠ i → Leads wanted keys i j

theorem Leads.asymm (hrank : Ranked rank keys) (hwanted : wanted ≠ .eq) (h : Leads wanted keys i j) :
    ¬ Leads wanted keys j i := by
  intro h'
  obtain ⟨a, b, ha, hb, -⟩ := id h
  rw [hrank.leads_iff ha hb] at h
  rw [hrank.leads_iff hb ha, hrank.preorder.swap a b] at h'
  rcases h with hab | ⟨hab, hij⟩ <;> rw [hab] at h'
  · cases wanted <;> simp at h' hwanted
  · rcases h' with h' | ⟨-, hji⟩
    · exact hwanted h'.symm
    · omega

/-- There is one such place only. -/
theorem FirstExtreme.unique (hrank : Ranked rank keys) (hwanted : wanted ≠ .eq)
    (hi : FirstExtreme wanted keys i) (hj : FirstExtreme wanted keys j) : i = j := by
  by_contra hne
  exact (hi.2 j hj.1 (Ne.symm hne)).asymm hrank hwanted (hj.2 i hi.1 hne)

/-! ## The scan -/

theorem Leads.append (h : Leads wanted keys i j) (more : List Json) : Leads wanted (keys ++ more) i j := by
  obtain ⟨a, b, ha, hb, hab⟩ := h
  refine ⟨a, b, ?_, ?_, hab⟩
  · rw [List.getElem?_append_left (List.getElem?_eq_some_iff.1 ha).1, ha]
  · rw [List.getElem?_append_left (List.getElem?_eq_some_iff.1 hb).1, hb]

/-- A further key that stands in the wanted order to the extreme one takes its place. -/
theorem FirstExtreme.beaten {key best : Json} (hwanted : wanted ≠ .eq)
    (hrank : Ranked rank (keys ++ [key])) (h : FirstExtreme wanted keys i)
    (hbest : keys[i]? = some best) (hbeats : rank key best = wanted) :
    FirstExtreme wanted (keys ++ [key]) keys.length := by
  have hkeys : Ranked rank keys := hrank.subset fun k hk => List.mem_append_left _ hk
  have hlength : (keys ++ [key]).length = keys.length + 1 := List.length_append
  refine ⟨by omega, fun j hj hne => ?_⟩
  obtain ⟨b, hb⟩ : ∃ b, keys[j]? = some b := ⟨_, List.getElem?_eq_getElem (by omega)⟩
  have hb' : (keys ++ [key])[j]? = some b := by
    rw [List.getElem?_append_left (by omega), hb]
  have hbelow : rank best b = wanted ∨ rank best b = .eq := by
    by_cases hji : j = i
    · subst hji
      cases hbest.symm.trans hb
      exact .inr (hrank.preorder.refl best)
    · exact ((hkeys.leads_iff hbest hb).1 (h.2 j (by omega) hji)).imp_right And.left
  have hfirst : rank key b = wanted := hrank.preorder.trans_strict hwanted hbeats hbelow
  exact (hrank.leads_iff List.getElem?_concat_length hb').2 (.inl hfirst)

/-- Behind any other further key it stays in its place. -/
theorem FirstExtreme.stays {key best : Json} (hwanted : wanted ≠ .eq)
    (hrank : Ranked rank (keys ++ [key])) (h : FirstExtreme wanted keys i)
    (hbest : keys[i]? = some best) (hno : rank key best ≠ wanted) :
    FirstExtreme wanted (keys ++ [key]) i := by
  have hlength : (keys ++ [key]).length = keys.length + 1 := List.length_append
  have hi := h.1
  refine ⟨by omega, fun j hj hne => ?_⟩
  by_cases hlast : j = keys.length
  -- the further key may be equal to the extreme one, which then is the earlier of the two
  · subst hlast
    have hbest' : (keys ++ [key])[i]? = some best := by
      rw [List.getElem?_append_left hi, hbest]
    have hside : rank best key = wanted ∨ rank best key = .eq := by
      rw [hrank.preorder.swap key best]
      cases wanted <;> cases hkey : rank key best <;> simp_all
    exact (hrank.leads_iff hbest' List.getElem?_concat_length).2
      (hside.imp_right fun heq => ⟨heq, hi⟩)
  · exact (h.2 j (by omega) hne).append [key]

/-- **One step of the scan.** -/
theorem FirstExtreme.snoc {key best : Json} (hwanted : wanted ≠ .eq)
    (hrank : Ranked rank (keys ++ [key])) (h : FirstExtreme wanted keys i)
    (hbest : keys[i]? = some best) :
    FirstExtreme wanted (keys ++ [key])
      (if key.compare best = some wanted then keys.length else i) := by
  have hcompare : key.compare best = some (rank key best) :=
    hrank.compare _ (List.mem_append_right _ List.mem_cons_self) _
      (List.mem_append_left _ (List.mem_of_getElem? hbest))
  split
  · rename_i hbeats
    exact h.beaten hwanted hrank hbest (Option.some.inj (hcompare.symm.trans hbeats))
  · rename_i hno
    refine h.stays hwanted hrank hbest fun hbeats => hno ?_
    rw [hcompare, hbeats]

/-- **The whole scan**: of the keys that were gone through, the extreme one is at hand. -/
theorem foldl_first (hwanted : wanted ≠ .eq) (rest : List (Json × Json))
    {done : List (Json × Json)} {best : Json × Json}
    (hrank : Ranked rank ((done ++ rest).map Prod.fst))
    (h : FirstExtreme wanted (done.map Prod.fst) i) (hbest : done[i]? = some best) :
    ∃ n, FirstExtreme wanted ((done ++ rest).map Prod.fst) n ∧ (done ++ rest)[n]? =
      some (rest.foldl (fun best x => if x.1.compare best.1 = some wanted then x else best) best) := by
  -- on what is still to come; `best` stands at the first extreme place of what was gone through
  induction rest generalizing done i best with
  | nil =>
    rw [List.append_nil]
    exact ⟨i, h, hbest⟩
  | cons x rest ih =>
    have hassoc : done ++ x :: rest = (done ++ [x]) ++ rest := by simp
    rw [hassoc] at hrank ⊢
    rw [List.foldl_cons]
    have hsnoc : (done ++ [x]).map Prod.fst = done.map Prod.fst ++ [x.1] := by simp
    have hnext : FirstExtreme wanted ((done ++ [x]).map Prod.fst)
        (if x.1.compare best.1 = some wanted then (done.map Prod.fst).length else i) := by
      rw [hsnoc]
      refine h.snoc hwanted (hrank.subset fun k hk => ?_) (by rw [List.getElem?_map, hbest]; rfl)
      rw [List.map_append, hsnoc]
      exact List.mem_append_left _ hk
    refine ih hrank hnext ?_
    split
    · rw [List.length_map, List.getElem?_concat_length]
    · rw [List.getElem?_append_left (List.getElem?_eq_some_iff.1 hbest).1, hbest]

/-- The scan for an extreme key finds the first one. -/
theorem extreme?_first (wanted : Ordering) (hwanted : wanted ≠ .eq) (hrank : Ranked rank keys)
    (hlength : keys.length = items.length) (hne : items ≠ []) :
    ∃ n v, FirstExtreme wanted keys n ∧ items[n]? = some v ∧
      extreme? wanted (keys.zip items) = some v := by
  have hkeys : (keys.zip items).map Prod.fst = keys := List.map_fst_zip hlength.le
  cases hkeyed : keys.zip items with
  | nil =>
    rcases List.zip_eq_nil_iff.1 hkeyed with rfl | rfl
    · exact absurd (List.eq_nil_of_length_eq_zero hlength.symm) hne
    · exact absurd rfl hne
  | cons first rest =>
    have hstart : FirstExtreme wanted ([first].map Prod.fst) 0 :=
      ⟨by simp, fun j hj hj' => absurd (Nat.lt_one_iff.1 hj) hj'⟩
    have hall : [first] ++ rest = keys.zip items := hkeyed.symm
    obtain ⟨n, hn, hv⟩ := foldl_first hwanted rest (by rwa [hall, hkeys]) hstart rfl
    rw [hall, hkeys] at hn
    rw [hall] at hv
    exact ⟨n, _, hn, (List.getElem?_zip_eq_some.1 hv).2, rfl⟩

/-! ## The ends of a sort -/

variable {sorted : List Json}

theorem SortedAlong.mem_iff {places : List Nat} (h : SortedAlong places keys items sorted) :
    j ∈ places ↔ j < items.length := by
  rw [h.perm.mem_iff, List.mem_range]

/-- In front of a sort stands the least key. -/
theorem SortedAlong.first {rest : List Nat} (h : SortedAlong (i :: rest) keys items sorted)
    (hlength : keys.length = items.length) : FirstExtreme .lt keys i := by
  refine ⟨hlength ▸ h.mem_iff.1 List.mem_cons_self, fun j hj hne => ?_⟩
  have hmem : j ∈ i :: rest := h.mem_iff.2 (hlength ▸ hj)
  exact (List.pairwise_cons.1 h.ordered).1 j ((List.mem_cons.1 hmem).resolve_left hne)

/-- What leads a key in the reversed list comes behind it in the list. -/
theorem Leads.of_reverse (hrank : Ranked rank keys) (h : Leads .lt keys.reverse j i) :
    Leads .gt keys (keys.length - 1 - i) (keys.length - 1 - j) := by
  have hreverse : Ranked rank keys.reverse := hrank.subset fun k hk => List.mem_reverse.1 hk
  obtain ⟨b, a, hb, ha, -⟩ := id h
  rw [hreverse.leads_iff hb ha] at h
  have hj := (List.getElem?_eq_some_iff.1 hb).1
  have hi := (List.getElem?_eq_some_iff.1 ha).1
  rw [List.length_reverse] at hj hi
  rw [List.getElem?_reverse hj] at hb
  rw [List.getElem?_reverse hi] at ha
  rw [hrank.leads_iff ha hb, hrank.preorder.swap b a]
  rcases h with hba | ⟨hba, hji⟩
  · exact .inl (by rw [hba]; rfl)
  · exact .inr ⟨by rw [hba]; rfl, by omega⟩

/-- At the end of a sort of the reversed items stands the greatest key, the first one of equals. -/
theorem SortedAlong.last {front : List Nat} (hrank : Ranked rank keys)
    (h : SortedAlong (front ++ [i]) keys.reverse items.reverse sorted)
    (hlength : keys.length = items.length) : FirstExtreme .gt keys (keys.length - 1 - i) := by
  have hrange : ∀ j, j ∈ front ++ [i] ↔ j < keys.length := by
    intro j
    rw [h.mem_iff, List.length_reverse, hlength]
  have hi : i < keys.length := (hrange i).1 (List.mem_append_right _ List.mem_cons_self)
  refine ⟨by omega, fun j hj hne => ?_⟩
  have hmem : keys.length - 1 - j ∈ front ++ [i] := (hrange _).2 (by omega)
  have hfront : keys.length - 1 - j ∈ front := by
    rcases List.mem_append.1 hmem with hmem | hmem
    · exact hmem
    · have := List.mem_singleton.1 hmem
      omega
  have hleads := (List.pairwise_append.1 h.ordered).2.2 _ hfront i List.mem_cons_self
  have hback : keys.length - 1 - (keys.length - 1 - j) = j := by omega
  simpa [hback] using hleads.of_reverse hrank

/-- The first item of a sort is the one with the least key. -/
theorem sortOn_first (hrank : Ranked rank keys) (hlength : keys.length = items.length)
    (hne : items ≠ []) :
    ∃ v rest, extreme? .lt (keys.zip items) = some v ∧ sortOn (keys.zip items) = v :: rest := by
  obtain ⟨n, v, hn, hv, hextreme⟩ := extreme?_first .lt nofun hrank hlength hne
  obtain ⟨places, hsorted⟩ := sortOn_stable hrank hlength
  cases places with
  | nil => exact absurd (List.eq_nil_of_length_eq_zero (by simpa using hsorted.perm.length_eq.symm)) hne
  | cons i rest =>
    have hni : n = i := hn.unique hrank (by decide) (hsorted.first hlength)
    refine ⟨v, rest.filterMap (items[·]?), hextreme, ?_⟩
    rw [hsorted.taken, List.filterMap_cons, ← hni, hv]

/-- The last item of a sort of the reversed items is the one with the greatest key. -/
theorem sortOn_reverse_last (hrank : Ranked rank keys) (hlength : keys.length = items.length)
    (hne : items ≠ []) :
    ∃ v front, extreme? .gt (keys.zip items) = some v ∧
      sortOn (keys.reverse.zip items.reverse) = front ++ [v] := by
  obtain ⟨n, v, hn, hv, hextreme⟩ := extreme?_first .gt nofun hrank hlength hne
  have hrank' : Ranked rank keys.reverse := hrank.subset fun k hk => List.mem_reverse.1 hk
  have hlength' : keys.reverse.length = items.reverse.length := by simpa using hlength
  obtain ⟨places, hsorted⟩ := sortOn_stable hrank' hlength'
  rcases List.eq_nil_or_concat places with rfl | ⟨front, i, rfl⟩
  · exact absurd (List.eq_nil_of_length_eq_zero (by simpa using hsorted.perm.length_eq.symm)) hne
  · rw [List.concat_eq_append] at hsorted
    have hni : n = keys.length - 1 - i := hn.unique hrank (by decide) (hsorted.last hrank hlength)
    have hi : i < items.length := by
      have := hsorted.mem_iff.1 (List.mem_append_right front List.mem_cons_self)
      rwa [List.length_reverse] at this
    have hlast : items.reverse[i]? = some v := by
      rw [List.getElem?_reverse hi, ← hlength, ← hni, hv]
    refine ⟨v, front.filterMap (items.reverse[·]?), hextreme, ?_⟩
    rw [hsorted.taken, List.filterMap_append, List.filterMap_cons, hlast]
    rfl

/-! ## The functions -/

/-- How the extreme items of an array stand to the sorted array and the sorted reverse of it: all fail
together, or the least item is the first of the one and the greatest item the last of the other. -/
inductive ExtremesAgree : (least greatest sorted reversed : Except Failure Json) → Prop
  | failed {f g h : Failure} (reversed : Except Failure Json) : f.SameKind g → f.SameKind h →
      ExtremesAgree (.error g) (.error h) (.error f) reversed
  | found (least greatest : Json) (rest front : List Json) :
      ExtremesAgree (.ok least) (.ok greatest) (.ok (.array (least :: rest)))
        (.ok (.array (front ++ [greatest])))

theorem extremesAgree_of_comparable (hlength : keys.length = items.length) (hne : items ≠ [])
    (least greatest sorting : String) :
    ExtremesAgree (comparable least keys >>= fun _ => .ok ((extreme? .lt (keys.zip items)).getD .null))
      (comparable greatest keys >>= fun _ => .ok ((extreme? .gt (keys.zip items)).getD .null))
      (comparable sorting keys >>= fun _ => .ok (.array (sortOn (keys.zip items))))
      (comparable sorting keys.reverse >>= fun _ =>
        .ok (.array (sortOn (keys.reverse.zip items.reverse)))) := by
  by_cases h : OfOneKind keys
  · obtain ⟨rank, hrank⟩ := h.ranked
    obtain ⟨v, rest, hleast, hsort⟩ := sortOn_first hrank hlength hne
    obtain ⟨w, front, hgreatest, hreverse⟩ := sortOn_reverse_last hrank hlength hne
    -- the check looks at the first key first, but which keys it lets through does not depend on the order
    have hkind : OfOneKind keys.reverse := h.perm (List.reverse_perm keys).symm
    rw [comparable_of_oneKind h, comparable_of_oneKind h, comparable_of_oneKind h,
      comparable_of_oneKind hkind, hleast, hgreatest, hsort, hreverse]
    exact .found v w rest front
  · obtain ⟨kind, hcomparable⟩ := comparable_of_not_oneKind h
    rw [hcomparable least, hcomparable greatest, hcomparable sorting]
    exact .failed _ (.type _ _) (.type _ _)

/-- The extreme items of an array are those at the first places with an extreme key. -/
structure PicksFirst (keys items : List Json) (least greatest : Except Failure Json) : Prop where
  least : ∀ v, least = .ok v → ∃ i, FirstExtreme .lt keys i ∧ items[i]? = some v
  greatest : ∀ v, greatest = .ok v → ∃ i, FirstExtreme .gt keys i ∧ items[i]? = some v

theorem first_of_comparable (hlength : keys.length = items.length) (hne : items ≠ [])
    (hwanted : wanted ≠ .eq) (caller : String) {v : Json}
    (hv : (comparable caller keys >>= fun _ =>
      .ok ((extreme? wanted (keys.zip items)).getD .null)) = .ok v) :
    ∃ i, FirstExtreme wanted keys i ∧ items[i]? = some v := by
  by_cases h : OfOneKind keys
  · obtain ⟨rank, hrank⟩ := h.ranked
    obtain ⟨i, w, hi, hw, hextreme⟩ := extreme?_first wanted hwanted hrank hlength hne
    rw [comparable_of_oneKind h, hextreme] at hv
    cases hv
    exact ⟨i, hi, hw⟩
  · obtain ⟨kind, hcomparable⟩ := comparable_of_not_oneKind h
    rw [hcomparable caller] at hv
    cases hv

theorem outcome_extremeBy (caller : String) (wanted : Ordering)
    (hmem : ⟨caller, [], .fixed 2, extremeBy caller wanted⟩ ∈ arrays)
    (reasons : Reasons) (extensions : Bool) (items : List Json) (r : Registry) (k : Expr) :
    outcome reasons extensions caller (withReference items r k) =
      (mapItems (k.eval r) items).result >>= fun keys => comparable caller keys >>= fun _ =>
        .ok ((extreme? wanted (keys.zip items)).getD .null) := by
  rw [outcome_arrays reasons extensions hmem]
  show (extremeBy caller wanted (withReference items r k)).result = _
  rw [extremeBy, Traced.result_bind, result_keysBy, bind_assoc]
  refine bind_congr fun keys => ?_
  rw [bind_assoc]
  rfl

theorem outcome_extreme (caller : String) (wanted : Ordering)
    (hmem : ⟨caller, [], .fixed 1, extreme caller wanted⟩ ∈ arrays)
    (reasons : Reasons) (extensions : Bool) (items : List Json) :
    outcome reasons extensions caller [.value (.array items)] =
      comparable caller items >>= fun _ => .ok ((extreme? wanted (items.zip items)).getD .null) := by
  rw [outcome_arrays reasons extensions hmem]
  show (Traced.ofExcept (ownKeys caller [.value (.array items)] >>= fun keyed =>
    .ok ((extreme? wanted keyed).getD .null))).result = _
  rw [Traced.result_ofExcept, ownKeys_array, bind_assoc]
  rfl

/-- **Extremes agree with sorting.**  On an array that is not empty, `min_by`, `max_by` and `sort_by` with
the same reference fail together and in the same way; else `min_by` gives the first item of the sorted
array and `max_by` the last one of the sorted reverse of the array, which are those at the first places
with a least and a greatest key.  So do `min`, `max` and `sort` with the items as their own keys. -/
theorem extremes_of_sort (reasons : Reasons) (extensions : Bool) {items : List Json} (hne : items ≠ []) :
    (∀ (r : Registry) (k : Expr),
      ExtremesAgree (outcome reasons extensions "min_by" (withReference items r k))
          (outcome reasons extensions "max_by" (withReference items r k))
          (outcome reasons extensions "sort_by" (withReference items r k))
          (outcome reasons extensions "sort_by" (withReference items.reverse r k)) ∧
        ∀ keys, List.Forall₂ (fun v key => (k.eval r v).result = .ok key) items keys →
          PicksFirst keys items (outcome reasons extensions "min_by" (withReference items r k))
            (outcome reasons extensions "max_by" (withReference items r k))) ∧
    ExtremesAgree (outcome reasons extensions "min" [.value (.array items)])
        (outcome reasons extensions "max" [.value (.array items)])
        (outcome reasons extensions "sort" [.value (.array items)])
        (outcome reasons extensions "sort" [.value (.array items.reverse)]) ∧
      PicksFirst items items (outcome reasons extensions "min" [.value (.array items)])
        (outcome reasons extensions "max" [.value (.array items)]) := by
  have hminBy := outcome_extremeBy "min_by" .lt (by simp [arrays]) reasons extensions items
  have hmaxBy := outcome_extremeBy "max_by" .gt (by simp [arrays]) reasons extensions items
  have hmin := outcome_extreme "min" .lt (by simp [arrays]) reasons extensions items
  have hmax := outcome_extreme "max" .gt (by simp [arrays]) reasons extensions items
  refine ⟨fun r k => ⟨?_, fun keys hkeys => ?_⟩, ?_, ?_⟩
  · rw [hminBy, hmaxBy, outcome_sortBy, outcome_sortBy]
    cases hrun : (mapItems (k.eval r) items).result with
    | error f => exact .failed _ (.refl f) (.refl f)
    | ok keys =>
      have hkeys := result_mapItems.1 hrun
      have hreverse : (mapItems (k.eval r) items.reverse).result = .ok keys.reverse :=
        result_mapItems.2 (List.rel_reverse hkeys)
      rw [hreverse]
      exact extremesAgree_of_comparable hkeys.length_eq.symm hne "min_by" "max_by" "sort_by"
  · have hrun : (mapItems (k.eval r) items).result = .ok keys := result_mapItems.2 hkeys
    have hlength : keys.length = items.length := hkeys.length_eq.symm
    rw [hminBy, hmaxBy, hrun]
    exact ⟨fun v => first_of_comparable hlength hne (by decide) "min_by",
      fun v => first_of_comparable hlength hne (by decide) "max_by"⟩
  · rw [hmin, hmax, outcome_sort, outcome_sort]
    exact extremesAgree_of_comparable rfl hne "min" "max" "sort"
  · rw [hmin, hmax]
    exact ⟨fun v => first_of_comparable rfl hne (by decide) "min",
      fun v => first_of_comparable rfl hne (by decide) "max"⟩

/-- Three objects with the keys `1.0`, `2` and `1`, of which the first and the last are equal. -/
theorem extremes_of_sort_of_tied :
    let one : Double := ⟨false, 4503599627370496, -52, by decide⟩
    let keys : List Json :=
      [.number (.double one), .number (.integer 2 (by decide)), .number (.integer 1 (by decide))]
    let items : List Json := keys.map fun key => .object [("k", key)]
    let args := withReference items (functions .plain true) (.identifier "k")
    items ≠ [] ∧
      ExtremesAgree (outcome .plain true "min_by" args) (outcome .plain true "max_by" args)
        (outcome .plain true "sort_by" args)
        (outcome .plain true "sort_by" (withReference items.reverse (functions .plain true) (.identifier "k"))) ∧
      PicksFirst keys items (outcome .plain true "min_by" args) (outcome .plain true "max_by" args) := by
  intro one keys items args
  have hne : items ≠ [] := by simp [items, keys]
  have hkeys : List.Forall₂
      (fun v key => ((Expr.identifier "k").eval (functions .plain true) v).result = .ok key) items keys :=
    .cons rfl (.cons rfl (.cons rfl .nil))
  obtain ⟨hagree, hpicks⟩ := (extremes_of_sort .plain true hne).1 (functions .plain true) (.identifier "k")
  exact ⟨hne, hagree, hpicks keys hkeys⟩

end Library

end JsonQuery
