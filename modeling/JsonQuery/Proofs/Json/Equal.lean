import JsonQuery.Json
import JsonQuery.Proofs.Number.Order
import Mathlib.Data.List.Forall2
import Mathlib.Data.List.Perm.Subperm
import Mathlib.Logic.Relation

/-!
# Equality of values

* `Json.Equal` — equality with numbers by value and objects as maps, as a relation.
* `Json.equal_array`, `Json.equal_object` — it is taken item by item and member by member.
* `Json.Inside`, `Json.Shuffled` — two values differ in one place; two objects differ in the order of
  their members.
* `Json.equal_equivalence` — on values with unique keys this is an equivalence, it does not see the order
  of members anywhere inside, and what is replaced by its equal anywhere inside leaves an equal value.
-/

namespace JsonQuery

/-- Two numbers are equal if they have the same place in the order. -/
theorem Number.equal_iff {m n : Number} : m.equal n = true ↔ m.key = n.key := by
  unfold Number.equal
  rw [Number.compare_eq, beq_iff_eq, Option.some.injEq, cmp_eq_eq_iff]

namespace Json

/-! ## The values directly inside a value -/

/-- The items of an array and the values of an object. -/
def parts : Json → List Json
  | .array items => items
  | .object members => members.map Prod.snd
  | _ => []

theorem sizeOf_lt_of_mem_parts {p v : Json} (h : p ∈ v.parts) : sizeOf p < sizeOf v := by
  cases v with
  | array items =>
    have : sizeOf p < sizeOf items := List.sizeOf_lt_of_mem h
    simp only [array.sizeOf_spec]
    omega
  | object members =>
    obtain ⟨⟨key, w⟩, hmem, rfl⟩ := List.mem_map.1 h
    have := List.sizeOf_lt_of_mem hmem
    simp only [object.sizeOf_spec]
    simp only [Prod.mk.sizeOf_spec] at this
    omega
  | _ => cases h

/-- Induction on values: a property of all values directly inside a value passes on to the value. -/
theorem parts_induction {P : Json → Prop} (step : ∀ v, (∀ p ∈ v.parts, P p) → P v) (v : Json) : P v :=
  step v fun p _ => parts_induction step p
termination_by sizeOf v
decreasing_by exact sizeOf_lt_of_mem_parts ‹_›

/-! ## Lists compared item by item -/

theorem forall₂_symm {R : Json → Json → Prop} {as bs : List Json} (h : List.Forall₂ R as bs)
    (hR : ∀ v ∈ as, ∀ w ∈ bs, R v w → R w v) : List.Forall₂ R bs as := by
  induction h with
  | nil => exact .nil
  | cons h _ ih =>
    refine .cons (hR _ List.mem_cons_self _ List.mem_cons_self h) (ih fun v hv w hw => ?_)
    exact hR v (List.mem_cons_of_mem _ hv) w (List.mem_cons_of_mem _ hw)

theorem forall₂_trans {R : Json → Json → Prop} {as bs cs : List Json} (h : List.Forall₂ R as bs)
    (h' : List.Forall₂ R bs cs) (hR : ∀ u ∈ as, ∀ v w, R u v → R v w → R u w) :
    List.Forall₂ R as cs := by
  induction h generalizing cs with
  | nil => exact h'
  | cons h _ ih =>
    cases h' with
    | cons h' hrest =>
      refine .cons (hR _ List.mem_cons_self _ _ h h') (ih hrest fun u hu => ?_)
      exact hR u (List.mem_cons_of_mem _ hu)

/-! ## Unique keys -/

variable {key : String} {u v v' w w' : Json} {as bs items : List Json} {a b members : Members}

theorem keysUnique_array : KeysUnique (.array items) ↔ ∀ v ∈ items, v.KeysUnique := by
  rw [KeysUnique]
  induction items with
  | nil => simp [KeysUniqueItems]
  | cons v rest ih => rw [KeysUniqueItems, ih, List.forall_mem_cons]

theorem keysUnique_object : KeysUnique (.object members) ↔
    (members.map Prod.fst).Nodup ∧ ∀ m ∈ members, m.2.KeysUnique := by
  have hmembers : KeysUniqueMembers members ↔ ∀ m ∈ members, m.2.KeysUnique := by
    induction members with
    | nil => simp [KeysUniqueMembers]
    | cons m rest ih =>
      obtain ⟨key, v⟩ := m
      rw [KeysUniqueMembers, ih, List.forall_mem_cons]
  rw [KeysUnique, hmembers]

/-- What is directly inside a value with unique keys has unique keys. -/
theorem KeysUnique.parts (h : v.KeysUnique) : ∀ p ∈ v.parts, p.KeysUnique := by
  cases v with
  | array items => exact keysUnique_array.1 h
  | object members =>
    rintro p hp
    obtain ⟨m, hm, rfl⟩ := List.mem_map.1 hp
    exact (keysUnique_object.1 h).2 m hm
  | _ => nofun

theorem mem_of_lookup (h : members.lookup key = some v) : (key, v) ∈ members := by
  obtain ⟨before, after, rfl, _⟩ := List.lookup_eq_some_iff.1 h
  simp

/-- With unique keys, the look-up of a key gives the value of any member with that key. -/
theorem lookup_of_mem (hkeys : (members.map Prod.fst).Nodup) (h : (key, v) ∈ members) :
    members.lookup key = some v := by
  induction members with
  | nil => cases h
  | cons m rest ih =>
    obtain ⟨k, x⟩ := m
    rw [List.map_cons, List.nodup_cons] at hkeys
    rcases List.mem_cons.1 h with heq | hmem
    · cases heq
      exact List.lookup_cons_self
    · have hne : key ≠ k := by
        rintro rfl
        exact hkeys.1 (List.mem_map.2 ⟨_, hmem, rfl⟩)
      rw [List.lookup_cons, beq_eq_false_iff_ne.2 hne]
      exact ih hkeys.2 hmem

/-! ## Equality as a relation -/

/-- Equality with numbers by value and objects as maps. -/
def Equal (v w : Json) : Prop := v.equal w = true

theorem equal_array : Equal (.array as) (.array bs) ↔ List.Forall₂ Equal as bs := by
  show equalItems Number.equal as bs = true ↔ _
  induction as generalizing bs with
  | nil => cases bs <;> simp [equalItems]
  | cons v as ih =>
    cases bs with
    | nil => simp [equalItems]
    | cons w bs =>
      rw [equalItems, Bool.and_eq_true, ih, List.forall₂_cons]
      rfl

theorem equal_object : Equal (.object a) (.object b) ↔
    a.length = b.length ∧ ∀ m ∈ a, ∃ w, b.lookup m.1 = some w ∧ Equal m.2 w := by
  have hwithin : within Number.equal a b = true ↔
      ∀ m ∈ a, ∃ w, b.lookup m.1 = some w ∧ Equal m.2 w := by
    induction a with
    | nil => simp [within]
    | cons m rest ih =>
      obtain ⟨key, v⟩ := m
      rw [within, Bool.and_eq_true, ih, List.forall_mem_cons]
      refine and_congr_left fun _ => ?_
      cases b.lookup key with
      | none => simp
      | some w => simp [Equal, equal]
  show (a.length == b.length && within Number.equal a b) = true ↔ _
  rw [Bool.and_eq_true, beq_iff_eq, hwithin]

/-- A value is equal to itself. -/
theorem Equal.refl (hv : v.KeysUnique) : Equal v v := by
  induction v using parts_induction with
  | step v ih =>
    have hpart : ∀ p ∈ v.parts, Equal p p := fun p hp => ih p hp (hv.parts p hp)
    cases v with
    | null => rfl
    | bool x => exact beq_self_eq_true x
    | number n => exact Number.equal_iff.2 rfl
    | string s => exact beq_self_eq_true s
    | array items => exact equal_array.2 (List.forall₂_same.2 hpart)
    | object members =>
      have hkeys := (keysUnique_object.1 hv).1
      refine equal_object.2 ⟨rfl, fun m hm => ⟨m.2, lookup_of_mem hkeys hm, ?_⟩⟩
      exact hpart m.2 (List.mem_map_of_mem hm)

/-- Of two objects of one size with unique keys, if the first has no key that the second lacks, then the
second has none that the first lacks. -/
theorem keys_subset_of_length (ha : (a.map Prod.fst).Nodup) (hlength : a.length = b.length)
    (hsubset : a.map Prod.fst ⊆ b.map Prod.fst) : b.map Prod.fst ⊆ a.map Prod.fst := by
  have hle : (b.map Prod.fst).length ≤ (a.map Prod.fst).length := by simp [hlength]
  exact ((ha.subperm hsubset).perm_of_length_le hle).symm.subset

/-- A member of the second of two equal objects is equal to the member of the first with the same key. -/
theorem exists_of_mem_right (ha : (a.map Prod.fst).Nodup) (hb : (b.map Prod.fst).Nodup)
    (h : Equal (.object a) (.object b)) {m : String × Json} (hm : m ∈ b) :
    ∃ n ∈ a, n.1 = m.1 ∧ Equal n.2 m.2 := by
  obtain ⟨hlength, hwithin⟩ := equal_object.1 h
  have hsubset : a.map Prod.fst ⊆ b.map Prod.fst := by
    intro key hkey
    obtain ⟨n, hn, rfl⟩ := List.mem_map.1 hkey
    obtain ⟨x, hx, _⟩ := hwithin n hn
    exact List.mem_map.2 ⟨_, mem_of_lookup hx, rfl⟩
  have hkey := keys_subset_of_length ha hlength hsubset (List.mem_map_of_mem hm)
  obtain ⟨n, hn, hkeys⟩ := List.mem_map.1 hkey
  obtain ⟨x, hx, hequal⟩ := hwithin n hn
  rw [hkeys, lookup_of_mem hb hm] at hx
  cases hx
  exact ⟨n, hn, hkeys, hequal⟩

theorem Equal.symm (hv : v.KeysUnique) (hw : w.KeysUnique) (h : Equal v w) : Equal w v := by
  induction v using parts_induction generalizing w with
  | step v ih =>
    have hpart : ∀ p ∈ v.parts, ∀ q ∈ w.parts, Equal p q → Equal q p :=
      fun p hp q hq => ih p hp (hv.parts p hp) (hw.parts q hq)
    cases v with
    | null => cases w <;> first | rfl | cases h
    | bool x =>
      cases w with
      | bool y => exact beq_iff_eq.2 (beq_iff_eq.1 h).symm
      | _ => cases h
    | number m =>
      cases w with
      | number n => exact Number.equal_iff.2 (Number.equal_iff.1 h).symm
      | _ => cases h
    | string s =>
      cases w with
      | string t => exact beq_iff_eq.2 (beq_iff_eq.1 h).symm
      | _ => cases h
    | array as =>
      cases w with
      | array bs => exact equal_array.2 (forall₂_symm (equal_array.1 h) hpart)
      | _ => cases h
    | object a =>
      cases w with
      | object b =>
        have ha := (keysUnique_object.1 hv).1
        refine equal_object.2 ⟨(equal_object.1 h).1.symm, fun m hm => ?_⟩
        obtain ⟨n, hn, hkeys, hequal⟩ := exists_of_mem_right ha (keysUnique_object.1 hw).1 h hm
        refine ⟨n.2, hkeys ▸ lookup_of_mem ha hn, ?_⟩
        exact hpart n.2 (List.mem_map_of_mem hn) m.2 (List.mem_map_of_mem hm) hequal
      | _ => cases h

theorem Equal.trans (h : Equal u v) (h' : Equal v w) : Equal u w := by
  induction u using parts_induction generalizing v w with
  | step u ih =>
    cases u with
    | null => cases v <;> first | exact h' | cases h
    | bool x =>
      cases v with
      | bool y =>
        obtain rfl := beq_iff_eq.1 h
        exact h'
      | _ => cases h
    | number m =>
      cases v with
      | number n =>
        cases w with
        | number o => exact Number.equal_iff.2 ((Number.equal_iff.1 h).trans (Number.equal_iff.1 h'))
        | _ => cases h'
      | _ => cases h
    | string s =>
      cases v with
      | string t =>
        obtain rfl := beq_iff_eq.1 h
        exact h'
      | _ => cases h
    | array as =>
      cases v with
      | array bs =>
        cases w with
        | array cs =>
          exact equal_array.2 (forall₂_trans (equal_array.1 h) (equal_array.1 h') fun x hx y z => ih x hx)
        | _ => cases h'
      | _ => cases h
    | object a =>
      cases v with
      | object b =>
        cases w with
        | object c =>
          obtain ⟨hlength, hwithin⟩ := equal_object.1 h
          obtain ⟨hlength', hwithin'⟩ := equal_object.1 h'
          refine equal_object.2 ⟨hlength.trans hlength', fun m hm => ?_⟩
          obtain ⟨x, hx, hequal⟩ := hwithin m hm
          obtain ⟨y, hy, hequal'⟩ := hwithin' (m.1, x) (mem_of_lookup hx)
          exact ⟨y, hy, ih m.2 (List.mem_map_of_mem hm) hequal hequal'⟩
        | _ => cases h'
      | _ => cases h

/-! ## Changes inside a value -/

/-- Two values are the same but for one place, at the top or anywhere inside, where `R` relates them. -/
inductive Inside (R : Json → Json → Prop) : Json → Json → Prop
  | here {v w : Json} : R v w → Inside R v w
  | item {before after : List Json} {v w : Json} : Inside R v w →
      Inside R (.array (before ++ v :: after)) (.array (before ++ w :: after))
  | member {before after : Members} {key : String} {v w : Json} : Inside R v w →
      Inside R (.object (before ++ (key, v) :: after)) (.object (before ++ (key, w) :: after))

/-- Two objects have the same members, the second perhaps in another order. -/
inductive Shuffled : Json → Json → Prop
  | mk {members members' : Members} : members.Perm members' → Shuffled (.object members) (.object members')

/-- Members of objects are shuffled, anywhere inside a value and in any number of places. -/
def Reordered : Json → Json → Prop := Relation.ReflTransGen (Inside Shuffled)

variable {R : Json → Json → Prop}

theorem KeysUnique.shuffled (hv : v.KeysUnique) (h : Shuffled v w) : w.KeysUnique := by
  obtain ⟨hperm⟩ := h
  obtain ⟨hkeys, hmembers⟩ := keysUnique_object.1 hv
  refine keysUnique_object.2 ⟨(hperm.map Prod.fst).nodup hkeys, fun m hm => ?_⟩
  exact hmembers m (hperm.mem_iff.2 hm)

theorem Shuffled.equal (hv : v.KeysUnique) (h : Shuffled v w) : Equal v w := by
  have hw := hv.shuffled h
  obtain ⟨hperm⟩ := h
  refine equal_object.2 ⟨hperm.length_eq, fun m hm => ⟨m.2, ?_, ?_⟩⟩
  · exact lookup_of_mem (keysUnique_object.1 hw).1 (hperm.mem_iff.1 hm)
  · exact .refl ((keysUnique_object.1 hv).2 m hm)

/-- Keys stay unique inside a value if they do so where it is changed. -/
theorem KeysUnique.inside (hR : ∀ v w, v.KeysUnique → R v w → w.KeysUnique) (hv : v.KeysUnique)
    (h : Inside R v w) : w.KeysUnique := by
  induction h with
  | here h => exact hR _ _ hv h
  | item _ ih =>
    have hitems := keysUnique_array.1 hv
    simp only [List.forall_mem_append, List.forall_mem_cons] at hitems
    refine keysUnique_array.2 ?_
    simp only [List.forall_mem_append, List.forall_mem_cons]
    exact ⟨hitems.1, ih hitems.2.1, hitems.2.2⟩
  | member _ ih =>
    obtain ⟨hkeys, hmembers⟩ := keysUnique_object.1 hv
    simp only [List.forall_mem_append, List.forall_mem_cons] at hmembers
    refine keysUnique_object.2 ⟨by simpa using hkeys, ?_⟩
    simp only [List.forall_mem_append, List.forall_mem_cons]
    exact ⟨hmembers.1, ih hmembers.2.1, hmembers.2.2⟩

/-- A value stays equal if it does so where it is changed. -/
theorem Inside.equal (hR : ∀ v w, v.KeysUnique → R v w → Equal v w) (hv : v.KeysUnique)
    (h : Inside R v w) : Equal v w := by
  induction h with
  | here h => exact hR _ _ hv h
  | @item before after v w _ ih =>
    have hitems := keysUnique_array.1 hv
    simp only [List.forall_mem_append, List.forall_mem_cons] at hitems
    have hsame : ∀ items : List Json, (∀ v ∈ items, v.KeysUnique) → List.Forall₂ Equal items items :=
      fun items h => List.forall₂_same.2 fun v hv => .refl (h v hv)
    exact equal_array.2 (List.rel_append (hsame before hitems.1)
      (.cons (ih hitems.2.1) (hsame after hitems.2.2)))
  | @member before after key v w _ ih =>
    obtain ⟨hkeys, hmembers⟩ := keysUnique_object.1 hv
    have hkeys' : ((before ++ (key, w) :: after).map Prod.fst).Nodup := by simpa using hkeys
    simp only [List.forall_mem_append, List.forall_mem_cons] at hmembers
    have hsame : ∀ m ∈ before ++ (key, w) :: after, m.2.KeysUnique →
        ∃ x, (before ++ (key, w) :: after).lookup m.1 = some x ∧ Equal m.2 x :=
      fun m hm h => ⟨m.2, lookup_of_mem hkeys' hm, .refl h⟩
    refine equal_object.2 ⟨by simp, ?_⟩
    simp only [List.forall_mem_append, List.forall_mem_cons]
    refine ⟨fun m hm => hsame m (by simp [hm]) (hmembers.1 m hm), ?_,
      fun m hm => hsame m (by simp [hm]) (hmembers.2.2 m hm)⟩
    exact ⟨w, lookup_of_mem hkeys' (by simp), ih hmembers.2.1⟩

/-- Members may be shuffled anywhere inside a value. -/
theorem Reordered.equal (hv : v.KeysUnique) (h : Reordered v w) : Equal v w ∧ w.KeysUnique := by
  induction h with
  | refl => exact ⟨.refl hv, hv⟩
  | tail _ hstep ih =>
    obtain ⟨hequal, hkeys⟩ := ih
    refine ⟨hequal.trans (hstep.equal (fun _ _ => Shuffled.equal) hkeys), ?_⟩
    exact hkeys.inside (fun _ _ => KeysUnique.shuffled) hstep

/-- **Equality of values** is an equivalence on values with unique keys.  It does not change when members
are shuffled anywhere inside either value, and what is replaced by its equal anywhere inside a value leaves
an equal value. -/
theorem equal_equivalence :
    (Equivalence fun v w : { v : Json // v.KeysUnique } => v.1.equal w.1 = true) ∧
    (∀ v v' w w' : Json, v.KeysUnique → w.KeysUnique → Reordered v v' → Reordered w w' →
      v'.equal w' = v.equal w) ∧
    ∀ v w : Json, v.KeysUnique → Inside (fun x y => x.equal y = true) v w → v.equal w = true := by
  refine ⟨⟨fun v => Equal.refl v.2, fun {v w} h => Equal.symm v.2 w.2 h, Equal.trans⟩, ?_, ?_⟩
  · intro v v' w w' hv hw hvv hww
    obtain ⟨hvv, hv'⟩ := hvv.equal hv
    obtain ⟨hww, hw'⟩ := hww.equal hw
    refine Bool.eq_iff_iff.2 ⟨fun h => ?_, fun h => ?_⟩
    · exact (hvv.trans h).trans (hww.symm hw hw')
    · exact ((hvv.symm hv hv').trans h).trans hww
  · intro v w hv h
    exact h.equal (fun _ _ _ h => h) hv

/-- An object is equal to one with other orders at the top and inside an array. -/
theorem equal_of_shuffled_twice :
    let v : Json := .object [("a", .array [.object [("b", .bool true), ("c", .null)]]), ("d", .string "e")]
    let w : Json := .object [("d", .string "e"), ("a", .array [.object [("c", .null), ("b", .bool true)]])]
    v.KeysUnique ∧ Reordered v w ∧ w.equal v = v.equal v := by
  intro v w
  have hkeys : v.KeysUnique := by simp [v, KeysUnique, KeysUniqueItems, KeysUniqueMembers]
  have hinside : Inside Shuffled v
      (.object [("a", .array [.object [("c", .null), ("b", .bool true)]]), ("d", .string "e")]) :=
    @Inside.member _ [] _ _ _ _ (@Inside.item _ [] _ _ _ (.here (.mk (List.Perm.swap _ _ _))))
  have hreordered : Reordered v w := .tail (.single hinside) (.here (.mk (List.Perm.swap _ _ _)))
  exact ⟨hkeys, hreordered, equal_equivalence.2.1 v w v v hkeys hkeys hreordered .refl⟩

end Json

end JsonQuery
