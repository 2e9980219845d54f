import JsonQuery.Engine
import JsonQuery.Proofs.Comparison
import JsonQuery.Proofs.Eval.Result
import Mathlib.Data.List.Forall2

/-!
# Sorting

* `Library.outcome` — what the built-in function of a name makes of its arguments.
* `OfOneKind`, `Ranked` — keys that are all numbers or all strings, and keys that a total preorder compares;
  `OfOneKind.ranked`: the former are the latter.
* `Leads` — the key at one place comes before the key at another one, ties being settled by the places.
* `StablySorted` — the items in the order of their keys, those with equal keys in their old order.
* `sort_stable` — `sort_by` and `sort` fail softly on other keys and else are stable sorts; `sort` is
  idempotent.
-/

namespace JsonQuery

namespace Library

/-- What the built-in function of a name makes of its arguments. -/
def outcome (reasons : Reasons) (extensions : Bool) (name : String) (args : List Argument) : Except Failure Json :=
  match (functions reasons extensions).find? name with
  | some f => (f.body args).result
  | none => .error (.unknownFunction name)

/-- An array and a reference, as they are handed to a function. -/
abbrev withReference (items : List Json) (r : Registry) (k : Expr) : List Argument :=
  [.value (.array items), k.toArgument r]

/-- The functions on arrays are found under their names. -/
theorem outcome_arrays (reasons : Reasons) (extensions : Bool) {f : Function} (h : f ∈ arrays) (args : List Argument) :
    outcome reasons extensions f.name args = (f.body args).result := by
  simp only [arrays, List.mem_cons, List.not_mem_nil, or_false] at h
  rcases h with rfl | rfl | rfl | rfl | rfl | rfl | rfl | rfl | rfl | rfl <;> cases extensions <;> rfl

variable {keys items : List Json}

/-! ## Keys -/

/-- Values are all numbers, or they are all strings. -/
def OfOneKind (keys : List Json) : Prop :=
  (∀ k ∈ keys, k.kind = .number) ∨ ∀ k ∈ keys, k.kind = .string

theorem OfOneKind.perm {keys' : List Json} (h : OfOneKind keys) (hperm : keys.Perm keys') :
    OfOneKind keys' :=
  h.imp (fun h k hk => h k (hperm.mem_iff.2 hk)) fun h k hk => h k (hperm.mem_iff.2 hk)

theorem comparable_of_oneKind (h : OfOneKind keys) (caller : String) :
    comparable caller keys = .ok () := by
  cases keys with
  | nil => rfl
  | cons v rest =>
    have hordered : isOrdered v.kind = true := by
      rcases h with h | h <;> rw [h v List.mem_cons_self] <;> rfl
    have hsame : rest.find? (·.kind != v.kind) = none := by
      rw [List.find?_eq_none]
      intro w hw
      have hkind : w.kind = v.kind := by
        rcases h with h | h <;> rw [h v List.mem_cons_self, h w (List.mem_cons_of_mem _ hw)]
      simp [hkind]
    simp [comparable, hordered, hsame]

/-- Other values are refused, for the same reason whoever asks. -/
theorem comparable_of_not_oneKind (h : ¬ OfOneKind keys) :
    ∃ kind, ∀ caller, comparable caller keys =
      .error (.type (.expects caller "all numbers or all strings" kind)) := by
  cases keys with
  | nil => exact absurd (.inl nofun) h
  | cons v rest =>
    by_cases hordered : isOrdered v.kind = true
    · cases hother : rest.find? (·.kind != v.kind) with
      | some w => exact ⟨w.kind, fun caller => by simp [comparable, hordered, hother]⟩
      | none =>
        have hsame : ∀ w ∈ v :: rest, w.kind = v.kind := by
          intro w hw
          rcases List.mem_cons.1 hw with rfl | hw
          · rfl
          · simpa using List.find?_eq_none.1 hother w hw
        have hkind : v.kind = .number ∨ v.kind = .string := by
          simpa [isOrdered] using hordered
        refine absurd ?_ h
        rcases hkind with hkind | hkind
        · exact .inl fun w hw => (hsame w hw).trans hkind
        · exact .inr fun w hw => (hsame w hw).trans hkind
    · exact ⟨v.kind, fun caller => by simp [comparable, hordered]⟩

/-- A total preorder compares the keys, and any two of them have an order. -/
structure Ranked (rank : Json → Json → Ordering) (keys : List Json) : Prop where
  preorder : TotalPreorder rank
  compare : ∀ a ∈ keys, ∀ b ∈ keys, a.compare b = some (rank a b)

theorem Ranked.subset {rank : Json → Json → Ordering} {keys' : List Json} (h : Ranked rank keys)
    (hsubset : ∀ k ∈ keys', k ∈ keys) : Ranked rank keys' :=
  ⟨h.preorder, fun a ha b hb => h.compare a (hsubset a ha) b (hsubset b hb)⟩

/-- The value by which numbers are ordered, zero for all else. -/
def numberKey : Json → ℚ
  | .number n => n.key
  | _ => 0

/-- The text of a string, empty for all else. -/
def textKey : Json → String
  | .string s => s
  | _ => ""

theorem eq_number_of_kind {v : Json} (h : v.kind = .number) : ∃ n, v = .number n := by
  cases v with
  | number n => exact ⟨n, rfl⟩
  | _ => cases h

theorem eq_string_of_kind {v : Json} (h : v.kind = .string) : ∃ s, v = .string s := by
  cases v with
  | string s => exact ⟨s, rfl⟩
  | _ => cases h

/-- **Keys that pass the check are compared by a total preorder.** -/
theorem OfOneKind.ranked (h : OfOneKind keys) : ∃ rank, Ranked rank keys := by
  rcases h with h | h
  · refine ⟨fun a b => cmp (numberKey a) (numberKey b), TotalPreorder.of_linearOrder.on numberKey, ?_⟩
    intro a ha b hb
    obtain ⟨m, rfl⟩ := eq_number_of_kind (h a ha)
    obtain ⟨n, rfl⟩ := eq_number_of_kind (h b hb)
    exact Number.compare_eq m n
  · refine ⟨fun a b => Text.compareUnits (textKey a) (textKey b), Text.compareUnits_preorder.on textKey, ?_⟩
    intro a ha b hb
    obtain ⟨s, rfl⟩ := eq_string_of_kind (h a ha)
    obtain ⟨t, rfl⟩ := eq_string_of_kind (h b hb)
    rfl

/-! ## Stable sorts -/

/-- The key at the place `i` stands in the order `wanted` to the key at the place `j`, or they are equal
and `i` is the earlier place. -/
def Leads (wanted : Ordering) (keys : List Json) (i j : Nat) : Prop :=
  ∃ a b, keys[i]? = some a ∧ keys[j]? = some b ∧
    (a.compare b = some wanted ∨ (a.compare b = some .eq ∧ i < j))

/-- Of ranked keys one leads another if it has the wanted rank to it, or the same rank and the earlier place. -/
theorem Ranked.leads_iff {rank : Json → Json → Ordering} {wanted : Ordering} {i j : Nat} {a b : Json}
    (h : Ranked rank keys) (ha : keys[i]? = some a) (hb : keys[j]? = some b) :
    Leads wanted keys i j ↔ rank a b = wanted ∨ (rank a b = .eq ∧ i < j) := by
  have hcompare := h.compare a (List.mem_of_getElem? ha) b (List.mem_of_getElem? hb)
  constructor
  · rintro ⟨a', b', ha', hb', hab⟩
    cases ha.symm.trans ha'
    cases hb.symm.trans hb'
    simpa only [hcompare, Option.some_inj] using hab
  · intro hab
    refine ⟨a, b, ha, hb, ?_⟩
    simpa only [hcompare, Option.some_inj] using hab

/-- The items at all places, each place once, in the order of their keys; equal keys stay in the order of
their places. -/
structure SortedAlong (places : List Nat) (keys items sorted : List Json) : Prop where
  perm : places.Perm (List.range items.length)
  ordered : places.Pairwise (Leads .lt keys)
  taken : sorted = places.filterMap (items[·]?)

/-- The items in the order of their keys, those with equal keys in their old order. -/
def StablySorted (keys items sorted : List Json) : Prop :=
  ∃ places, SortedAlong places keys items sorted

theorem filterMap_range (items : List Json) :
    (List.range items.length).filterMap (items[·]?) = items := by
  induction items with
  | nil => rfl
  | cons v rest ih =>
    rw [List.length_cons, List.range_succ_eq_map, List.filterMap_cons, List.filterMap_map]
    simp only [List.getElem?_cons_zero]
    exact congrArg _ ih

/-- A sort is a permutation. -/
theorem StablySorted.perm {sorted : List Json} (h : StablySorted keys items sorted) :
    sorted.Perm items := by
  obtain ⟨places, hplaces⟩ := h
  rw [hplaces.taken]
  have hperm := hplaces.perm.filterMap (items[·]?)
  rwa [filterMap_range] at hperm

/-! ## Sorting with places -/

section Places

variable {rank : Json → Json → Ordering}

/-- Whether a keyed item may stand in front of another one. -/
def mayPrecede (rank : Json → Json → Ordering) (a b : Json × Json) : Bool := rank a.1 b.1 != .gt

theorem mayPrecede_trans (h : TotalPreorder rank) (a b c : Json × Json)
    (hab : mayPrecede rank a b = true) (hbc : mayPrecede rank b c = true) :
    mayPrecede rank a c = true := by
  simp only [mayPrecede, bne_iff_ne] at *
  exact h.trans _ _ _ hab hbc

theorem mayPrecede_total (h : TotalPreorder rank) (a b : Json × Json) :
    (mayPrecede rank a b || mayPrecede rank b a) = true := by
  simp only [mayPrecede, h.swap a.1 b.1]
  cases rank a.1 b.1 <;> rfl

/-- Keys that are ranked are sorted by their ranks: the fallback for keys without an order is not used. -/
theorem sortOn_eq (hrank : Ranked rank keys) :
    sortOn (keys.zip items) = ((keys.zip items).mergeSort (mayPrecede rank)).map Prod.snd := by
  have hmap := List.map_mergeSort (l := keys.zip items) (f := id) (s := mayPrecede rank)
    (r := fun a b => order a.1 b.1 != .gt) fun a ha b hb => by
      have hcompare := hrank.compare _ (List.of_mem_zip ha).1 _ (List.of_mem_zip hb).1
      simp [mayPrecede, order, hcompare]
  simp only [List.map_id] at hmap
  rw [sortOn, hmap]

/-- Where ties are settled by places, what may stand in front of something leads it. -/
theorem leads_of_zipIdxLE (hrank : Ranked rank keys) {p q : (Json × Json) × Nat}
    (hp : keys[p.2]? = some p.1.1) (hq : keys[q.2]? = some q.1.1) (hne : p.2 ≠ q.2)
    (hle : List.zipIdxLE (mayPrecede rank) p q = true) : Leads .lt keys p.2 q.2 := by
  rw [hrank.leads_iff hp hq]
  unfold List.zipIdxLE mayPrecede at hle
  have hswap := hrank.preorder.swap p.1.1 q.1.1
  cases hpq : rank p.1.1 q.1.1 with
  | lt => exact .inl rfl
  | eq =>
    have hle : p.2 ≤ q.2 := by simpa [hpq, hswap] using hle
    exact .inr ⟨rfl, by omega⟩
  | gt => simp [hpq] at hle

/-- **Sorting keyed items is a stable sort** where the keys are compared by a total preorder. -/
theorem sortOn_stable (hrank : Ranked rank keys) (hlength : keys.length = items.length) :
    StablySorted keys items (sortOn (keys.zip items)) := by
  -- the sort gives the same if each item is marked with its place and ties are settled by the marks
  rw [sortOn_eq hrank, ← List.mergeSort_zipIdx]
  generalize hmarked : (keys.zip items).zipIdx.mergeSort (List.zipIdxLE (mayPrecede rank)) = marked
  have hperm : marked.Perm (keys.zip items).zipIdx := hmarked ▸ List.mergeSort_perm _ _
  have hplaces : (marked.map Prod.snd).Perm (List.range items.length) := by
    have h := hperm.map Prod.snd
    rwa [List.zipIdx_map_snd, List.length_zip, hlength, Nat.min_self, ← List.range_eq_range'] at h
  have hat : ∀ p ∈ marked, keys[p.2]? = some p.1.1 ∧ items[p.2]? = some p.1.2 := by
    intro p hp
    have hzip := List.mem_zipIdx_iff_getElem?.1 (hperm.mem_iff.1 hp)
    exact List.getElem?_zip_eq_some.1 hzip
  have hordered : marked.Pairwise fun p q => List.zipIdxLE (mayPrecede rank) p q = true :=
    hmarked ▸ List.pairwise_mergeSort (List.zipIdxLE_trans (mayPrecede_trans hrank.preorder))
      (List.zipIdxLE_total (mayPrecede_total hrank.preorder)) _
  have hdistinct : marked.Pairwise fun p q => p.2 ≠ q.2 :=
    List.pairwise_map.1 (hplaces.nodup_iff.2 List.nodup_range)
  refine ⟨marked.map Prod.snd, hplaces, ?_, ?_⟩
  · refine List.pairwise_map.2 ((hordered.and hdistinct).imp_of_mem ?_)
    rintro p q hp hq ⟨hpq, hne⟩
    exact leads_of_zipIdxLE hrank (hat p hp).1 (hat q hq).1 hne hpq
  · rw [List.filterMap_map, List.map_map, ← List.filterMap_eq_map]
    refine List.filterMap_congr fun p hp => ?_
    exact (hat p hp).2.symm

end Places

/-! ## Sorting again -/

theorem zip_self (items : List Json) : items.zip items = items.map fun v => (v, v) := by
  rw [List.zip_eq_zipWith, List.zipWith_self]

/-- Items that are in order stay as they are. -/
theorem sortOn_of_ordered (h : items.Pairwise fun a b => order a b ≠ .gt) :
    sortOn (items.zip items) = items := by
  have hpairs : (items.zip items).Pairwise fun a b => (order a.1 b.1 != .gt) = true := by
    rw [zip_self, List.pairwise_map]
    exact h.imp fun hab => bne_iff_ne.2 hab
  rw [sortOn, List.mergeSort_of_pairwise hpairs, zip_self, List.map_map]
  exact List.map_id items

theorem StablySorted.ordered {sorted : List Json} (h : StablySorted items items sorted) :
    sorted.Pairwise fun a b => order a b ≠ .gt := by
  obtain ⟨places, hplaces⟩ := h
  rw [hplaces.taken, List.pairwise_filterMap]
  refine hplaces.ordered.imp ?_
  rintro i j ⟨a, b, ha, hb, hab⟩ v hv w hw
  cases ha.symm.trans hv
  cases hb.symm.trans hw
  rcases hab with hab | ⟨hab, -⟩ <;> simp [order, hab]

/-! ## The functions -/

/-- What a sort by keys comes to. -/
structure Sorts (keys items : List Json) (x : Except Failure Json) : Prop where
  fails_iff : (∃ f, x = .error f) ↔ ¬ OfOneKind keys
  soft : ∀ f, x = .error f → f.isHard = false
  ranked : ∀ v, x = .ok v → ∃ rank, Ranked rank keys
  sorted : ∀ v, x = .ok v → ∃ sorted, v = .array sorted ∧ StablySorted keys items sorted

theorem sorts_of_comparable (caller : String) (hlength : keys.length = items.length) :
    Sorts keys items (comparable caller keys >>= fun _ => .ok (.array (sortOn (keys.zip items)))) := by
  by_cases h : OfOneKind keys
  · obtain ⟨rank, hrank⟩ := h.ranked
    rw [comparable_of_oneKind h]
    refine ⟨⟨nofun, fun hnot => absurd h hnot⟩, nofun, fun _ _ => ⟨rank, hrank⟩, ?_⟩
    intro v hv
    cases hv
    exact ⟨_, rfl, sortOn_stable hrank hlength⟩
  · obtain ⟨kind, hcomparable⟩ := comparable_of_not_oneKind h
    rw [hcomparable caller]
    refine ⟨⟨fun _ => h, fun _ => ⟨_, rfl⟩⟩, ?_, nofun, nofun⟩
    intro f hf
    cases hf
    rfl

theorem result_mapItems {run : Json → Traced Json} :
    (mapItems run items).result = .ok keys ↔
      List.Forall₂ (fun v key => (run v).result = .ok key) items keys := by
  induction items generalizing keys with
  | nil =>
    rw [List.forall₂_nil_left_iff]
    constructor
    · rintro ⟨⟩
      rfl
    · rintro rfl
      rfl
  | cons v rest ih =>
    rw [List.forall₂_cons_left_iff, mapItems, Traced.result_bind_ok]
    constructor
    · rintro ⟨key, hkey, h⟩
      obtain ⟨others, hothers, h⟩ := Traced.result_bind_ok.1 h
      cases h
      exact ⟨key, others, hkey, ih.1 hothers, rfl⟩
    · rintro ⟨key, others, hkey, hothers, rfl⟩
      exact ⟨key, hkey, Traced.result_bind_ok.2 ⟨others, ih.2 hothers, rfl⟩⟩

/-- The keys of an array are the values of the reference, one after another, if they can be compared. -/
theorem result_keysBy (caller : String) (items : List Json) (r : Registry) (k : Expr) :
    (keysBy caller (withReference items r k)).result =
      (mapItems (k.eval r) items).result >>= fun keys =>
        comparable caller keys >>= fun _ => .ok (keys.zip items) := by
  simp only [keysBy, Traced.result_bind, Traced.result_ofExcept]
  rfl

theorem ownKeys_array (caller : String) (items : List Json) :
    ownKeys caller [.value (.array items)] =
      comparable caller items >>= fun _ => .ok (items.zip items) := by
  rw [zip_self]
  rfl

theorem outcome_sortBy (reasons : Reasons) (extensions : Bool) (items : List Json) (r : Registry) (k : Expr) :
    outcome reasons extensions "sort_by" (withReference items r k) =
      (mapItems (k.eval r) items).result >>= fun keys =>
        comparable "sort_by" keys >>= fun _ => .ok (.array (sortOn (keys.zip items))) := by
  rw [outcome_arrays reasons extensions (f := ⟨"sort_by", [], .fixed 2, sortBy⟩) (by simp [arrays])]
  show (sortBy (withReference items r k)).result = _
  rw [sortBy, Traced.result_bind, result_keysBy, bind_assoc]
  refine bind_congr fun keys => ?_
  rw [bind_assoc]
  rfl

theorem outcome_sort (reasons : Reasons) (extensions : Bool) (items : List Json) :
    outcome reasons extensions "sort" [.value (.array items)] =
      comparable "sort" items >>= fun _ => .ok (.array (sortOn (items.zip items))) := by
  rw [outcome_arrays reasons extensions (f := ⟨"sort", [], .fixed 1, sort⟩) (by simp [arrays])]
  show (Traced.ofExcept (ownKeys "sort" [.value (.array items)] >>= fun keyed =>
    .ok (Json.array (sortOn keyed)))).result = _
  rw [Traced.result_ofExcept, ownKeys_array, bind_assoc]
  rfl

/-- **Sorting is a stable sort.**  Where a reference has a value on every item, `sort_by` fails softly if
and only if these keys are neither all numbers nor all strings; else any two keys have an order, which is
a total preorder, and the result is the items in the order of their keys, with equal keys in their old
order.  `sort` does so with the items as their own keys, and sorting its result again changes nothing. -/
theorem sort_stable (reasons : Reasons) (extensions : Bool) (items : List Json) :
    (∀ (r : Registry) (k : Expr) (keys : List Json),
      List.Forall₂ (fun v key => (k.eval r v).result = .ok key) items keys →
        Sorts keys items (outcome reasons extensions "sort_by" (withReference items r k))) ∧
    Sorts items items (outcome reasons extensions "sort" [.value (.array items)]) ∧
    ∀ sorted, outcome reasons extensions "sort" [.value (.array items)] = .ok sorted →
      outcome reasons extensions "sort" [.value sorted] = .ok sorted := by
  have hsorts : Sorts items items (outcome reasons extensions "sort" [.value (.array items)]) := by
    rw [outcome_sort]
    exact sorts_of_comparable "sort" rfl
  refine ⟨?_, hsorts, ?_⟩
  · intro r k keys hkeys
    rw [outcome_sortBy, result_mapItems.2 hkeys]
    exact sorts_of_comparable "sort_by" hkeys.length_eq.symm
  · intro v hv
    obtain ⟨sorted, rfl, hstable⟩ := hsorts.sorted v hv
    have hkind : OfOneKind items := by
      by_contra hnot
      obtain ⟨f, hf⟩ := hsorts.fails_iff.2 hnot
      cases hf.symm.trans hv
    rw [outcome_sort, comparable_of_oneKind (hkind.perm hstable.perm.symm),
      sortOn_of_ordered hstable.ordered]
    rfl

/-- Three objects are sorted by the keys `2`, `1.0` and `1`, of which the last two are equal. -/
theorem sort_stable_of_tied :
    let one : Double := ⟨false, 4503599627370496, -52, by decide⟩
    let keys : List Json :=
      [.number (.integer 2 (by decide)), .number (.double one), .number (.integer 1 (by decide))]
    let items : List Json := keys.map fun key => .object [("k", key)]
    let r := functions .plain true
    Json.compare (.number (.double one)) (.number (.integer 1 (by decide))) = some .eq ∧
      List.Forall₂ (fun v key => ((Expr.identifier "k").eval r v).result = .ok key) items keys ∧
      ∃ sorted, outcome .plain true "sort_by" (withReference items r (.identifier "k")) = .ok (.array sorted) ∧
        StablySorted keys items sorted := by
  intro one keys items r
  have hkeys : List.Forall₂ (fun v key => ((Expr.identifier "k").eval r v).result = .ok key) items keys :=
    .cons rfl (.cons rfl (.cons rfl .nil))
  have hsorts := (sort_stable .plain true items).1 r (.identifier "k") keys hkeys
  have hkind : OfOneKind keys := .inl (by simp [keys, Json.kind])
  refine ⟨by decide +kernel, hkeys, ?_⟩
  cases hresult : outcome .plain true "sort_by" (withReference items r (.identifier "k")) with
  | error f => exact absurd hkind (hsorts.fails_iff.1 ⟨f, hresult⟩)
  | ok v =>
    obtain ⟨sorted, rfl, hstable⟩ := hsorts.sorted v hresult
    exact ⟨sorted, rfl, hstable⟩

end Library

end JsonQuery
