import JsonQuery.Library.Arrays
import JsonQuery.Proofs.Machine.Trapping

/-!
# Functions that take items by their places

* `Machine.Argument`, `Machine.Body` — what is handed to a function whose references may trap.
* `Machine.extremePlace`, `Machine.sortPlaces` — the place of an extreme key, and places in the order of
  their keys.
* `Machine.byPlace` — the bodies of `map`, `max`, `max_by`, `min`, `min_by` and `sort_by`, which take
  arguments, keys and items by their places.
* `Machine.byPlace_eq` — with the right number of arguments they do not trap and do what the functions of
  the library do.
-/

namespace JsonQuery

/-- An evaluation that may trap as one that does not; a trap shows as a missing argument. -/
def Trapping.outcome {α : Type} : Trapping α → Traced α
  | trap => .fail (.type .missingArgument)
  | ran x => x

namespace Machine

open Trapping

/-! ## Arguments -/

/-- What is handed to a function: a value, or an expression whose evaluation may trap. -/
inductive Argument where
  | value (v : Json)
  | reference (body : Expr) (run : Json → Trapping Json)

/-- What a function does with its arguments. -/
abbrev Body := List Argument → Trapping Json

namespace Argument

/-- An argument as the library takes it. -/
def seen : Argument → JsonQuery.Argument
  | value v => .value v
  | reference body run => .reference body fun v => (run v).outcome

/-- An argument whose evaluation does not trap. -/
def of : JsonQuery.Argument → Argument
  | .value v => value v
  | .reference body run => reference body fun v => .ran (run v)

/-- The argument as an array. -/
def asArray (a : Argument) : Trapping (List Json) := .ofExcept a.seen.asArray

/-- The argument as a way to evaluate it. -/
def asReference : Argument → Trapping (Json → Trapping Json)
  | reference _ run => pure run
  | value v => .ofExcept ((JsonQuery.Argument.value v).mismatch "expression")

@[simp] theorem seen_of (a : JsonQuery.Argument) : (of a).seen = a := by
  cases a <;> rfl

end Argument

/-! ## Bodies -/

/-- The values of a reference on the items of a list. -/
def mapItems (run : Json → Trapping Json) : List Json → Trapping (List Json)
  | [] => pure []
  | v :: rest => do
    let w ← run v
    let ws ← mapItems run rest
    pure (w :: ws)

/-- The items of an array as their own keys, and the items. -/
def ownKeys (caller : String) (args : List Argument) : Trapping (List Json × List Json) := do
  let items ← (← access args 0).asArray
  .ofExcept (Library.comparable caller items)
  pure (items, items)

/-- The values of a reference on the items of an array as their keys, and the items. -/
def keysBy (caller : String) (args : List Argument) : Trapping (List Json × List Json) := do
  let items ← (← access args 0).asArray
  let run ← (← access args 1).asReference
  let keys ← mapItems run items
  .ofExcept (Library.comparable caller keys)
  pure (keys, items)

/-- Goes through the keys from the place `i` on; `best` is the place of the extreme key so far. -/
def extremeFrom (wanted : Ordering) (keys : List Json) (best i : Nat) : List Json → Trapping Nat
  | [] => pure best
  | key :: rest => do
    let champion ← access keys best
    extremeFrom wanted keys (if key.compare champion = some wanted then i else best) (i + 1) rest

/-- The place of the first extreme key. -/
def extremePlace (wanted : Ordering) (keys : List Json) : Trapping (Option Nat) :=
  match keys with
  | [] => pure none
  | _ :: rest => do
    let i ← extremeFrom wanted keys 0 1 rest
    pure (some i)

/-- The item with the extreme key, null if there is none. -/
def extremeItem (wanted : Ordering) (keys items : List Json) : Trapping Json := do
  match ← extremePlace wanted keys with
  | some i => access items i
  | none => pure .null

/-- Whether the key at a place may stand before the key at another one, if these are places. -/
def precedes (keys : List Json) (a b : Nat) : Option Bool := do
  let x ← keys[a]?
  let y ← keys[b]?
  pure (Library.order x y != .gt)

/-- Places sorted by a comparison, which must be defined on any two of them. -/
def sortPlaces (le? : Nat → Nat → Option Bool) (places : List Nat) : Trapping (List Nat) :=
  if places.all fun a => places.all fun b => (le? a b).isSome then
    pure (places.mergeSort fun a b => (le? a b).getD true)
  else .trap

/-- The items in the order of their keys. -/
def sortItems (keys items : List Json) : Trapping (List Json) := do
  pick items (← sortPlaces (precedes keys) (List.range items.length))

/-- The extreme item of an array. -/
def extreme (caller : String) (wanted : Ordering) : Body := fun args => do
  let (keys, items) ← ownKeys caller args
  extremeItem wanted keys items

/-- The item of an array with the extreme key. -/
def extremeBy (caller : String) (wanted : Ordering) : Body := fun args => do
  let (keys, items) ← keysBy caller args
  extremeItem wanted keys items

/-- An array in the order of its keys. -/
def sortBy : Body := fun args => do
  let (keys, items) ← keysBy "sort_by" args
  pure (.array (← sortItems keys items))

/-- The values of a reference on the items of an array. -/
def map : Body := fun args => do
  let run ← (← access args 0).asReference
  let items ← (← access args 1).asArray
  pure (.array (← mapItems run items))

/-- The bodies that evaluate references or take items by their places, under their names. -/
def byPlace : List (String × Body) :=
  [("map", map), ("max", extreme "max" .gt), ("max_by", extremeBy "max_by" .gt),
   ("min", extreme "min" .lt), ("min_by", extremeBy "min_by" .lt), ("sort_by", sortBy)]

/-! ## Keys -/

theorem mapItems_eq (run : Json → Traced Json) (items : List Json) :
    mapItems (fun v => .ran (run v)) items = .ran (Library.mapItems run items) := by
  induction items with
  | nil => rfl
  | cons v rest ih =>
    rw [mapItems, ih, Library.mapItems]
    exact ran_bind fun _ _ => ran_bind fun _ _ => rfl

theorem length_of_mapItems {run : Json → Traced Json} {items keys : List Json}
    (h : (Library.mapItems run items).result = .ok keys) : keys.length = items.length := by
  induction items generalizing keys with
  | nil =>
    cases h
    rfl
  | cons v rest ih =>
    obtain ⟨w, _, h⟩ := Traced.result_bind_ok.1 h
    obtain ⟨ws, hws, h⟩ := Traced.result_bind_ok.1 h
    cases h
    rw [List.length_cons, List.length_cons, ih hws]

variable {a b : JsonQuery.Argument} {β : Type}

theorem asArray_bind {k : List Json → Trapping β} {l : List Json → Traced β}
    (h : ∀ items, k items = .ran (l items)) :
    ((Argument.of a).asArray >>= k) = .ran (Traced.ofExcept a.asArray >>= l) := by
  rw [Argument.asArray, Argument.seen_of]
  exact ran_bind fun items _ => h items

theorem asReference_bind {k : (Json → Trapping Json) → Trapping β}
    {l : Expr × (Json → Traced Json) → Traced β} (h : ∀ body run, k (fun v => .ran (run v)) = .ran (l (body, run))) :
    ((Argument.of a).asReference >>= k) = .ran (Traced.ofExcept a.asReference >>= l) := by
  cases a with
  | value v => rfl
  | reference body run =>
    show (pure (fun v => .ran (run v)) >>= k) = Trapping.ran (pure (body, run) >>= l)
    rw [pure_bind, pure_bind, h body run]

theorem ownKeys_bind (caller : String) {k : List Json × List Json → Trapping β}
    {l : List (Json × Json) → Traced β}
    (h : ∀ items, k (items, items) = .ran (l (items.map fun v => (v, v)))) :
    (ownKeys caller [.of a] >>= k) = .ran (Traced.ofExcept (Library.ownKeys caller [a]) >>= l) := by
  have hmodel : Library.ownKeys caller [a] = (a.asArray >>= fun items =>
      Library.comparable caller items >>= fun _ => pure (items.map fun v => (v, v))) := rfl
  rw [hmodel, Traced.ofExcept_bind, ownKeys, access_eq rfl, pure_bind, bind_assoc, bind_assoc]
  refine asArray_bind fun items => ?_
  rw [Traced.ofExcept_bind, bind_assoc, bind_assoc]
  refine ran_bind fun _ _ => ?_
  rw [pure_bind, h items]
  rfl

theorem keysBy_bind (caller : String) {k : List Json × List Json → Trapping β}
    {l : List (Json × Json) → Traced β}
    (h : ∀ keys items, keys.length = items.length → k (keys, items) = .ran (l (keys.zip items))) :
    (keysBy caller [.of a, .of b] >>= k) = .ran (Library.keysBy caller [a, b] >>= l) := by
  rw [keysBy, Library.keysBy, access_eq rfl, access_eq rfl, pure_bind, bind_assoc, bind_assoc]
  refine asArray_bind fun items => ?_
  rw [pure_bind, bind_assoc, bind_assoc]
  refine asReference_bind fun body run => ?_
  rw [mapItems_eq, bind_assoc, bind_assoc]
  refine ran_bind fun keys hkeys => ?_
  rw [bind_assoc, bind_assoc]
  refine ran_bind fun _ _ => ?_
  rw [pure_bind, pure_bind, h keys items (length_of_mapItems hkeys)]

/-! ## Extreme keys -/

variable {wanted : Ordering} {keys items : List Json}

/-- What the champion is replaced by. -/
def challenge (wanted : Ordering) (best x : Json × Json) : Json × Json :=
  if x.1.compare best.1 = some wanted then x else best

/-- Where a key is next, it is next together with its item. -/
theorem drop_zip_of_cons {key : Json} {rest : List Json} {i : Nat} (hdrop : keys.drop i = key :: rest)
    (hlength : keys.length = items.length) :
    ∃ v, (keys.zip items)[i]? = some (key, v) ∧
      (keys.zip items).drop i = (key, v) :: (keys.zip items).drop (i + 1) ∧
      keys.drop (i + 1) = rest := by
  have hi : i < keys.length := by
    have := congrArg List.length hdrop
    rw [List.length_drop, List.length_cons] at this
    omega
  have hkey : keys[i]? = some key := by
    rw [← List.head?_drop, hdrop, List.head?_cons]
  have hv : (keys.zip items)[i]? = some (key, items[i]) :=
    List.getElem?_zip_eq_some.2 ⟨hkey, List.getElem?_eq_getElem _⟩
  obtain ⟨hzip, hitem⟩ := List.getElem?_eq_some_iff.1 hv
  refine ⟨items[i], hv, ?_, ?_⟩
  · rw [List.drop_eq_getElem_cons hzip, hitem]
  · rw [← List.tail_drop, hdrop, List.tail_cons]

theorem extremeFrom_eq (wanted : Ordering) {rest : List Json} {best i : Nat} {champion : Json × Json}
    (hbest : (keys.zip items)[best]? = some champion) (hrest : keys.drop i = rest)
    (hlength : keys.length = items.length) :
    ∃ n, extremeFrom wanted keys best i rest = pure n ∧
      (keys.zip items)[n]? = some (((keys.zip items).drop i).foldl (challenge wanted) champion) := by
  induction rest generalizing best i champion with
  | nil =>
    refine ⟨best, rfl, ?_⟩
    rw [List.drop_eq_nil_of_le, List.foldl_nil, hbest]
    rw [List.length_zip, ← hlength, Nat.min_self]
    exact List.drop_eq_nil_iff.1 hrest
  | cons key rest ih =>
    obtain ⟨v, hv, hzip, hdrop⟩ := drop_zip_of_cons hrest hlength
    rw [extremeFrom, access_eq (List.getElem?_zip_eq_some.1 hbest).1, pure_bind, hzip, List.foldl_cons]
    refine ih ?_ hdrop
    unfold challenge
    split
    · exact hv
    · exact hbest

theorem extremeItem_eq (hlength : keys.length = items.length) :
    extremeItem wanted keys items =
      pure ((Library.extreme? wanted (keys.zip items)).getD .null) := by
  cases keys with
  | nil => rfl
  | cons key rest =>
    cases items with
    | nil => cases hlength
    | cons v vs =>
      have hfirst : ((key :: rest).zip (v :: vs))[0]? = some (key, v) := rfl
      have hrest : (key :: rest).drop 1 = rest := rfl
      obtain ⟨n, hn, hzip⟩ := extremeFrom_eq wanted hfirst hrest hlength
      rw [extremeItem, extremePlace, hn]
      simp only [pure_bind]
      exact access_eq (List.getElem?_zip_eq_some.1 hzip).2

/-! ## Sorted keys -/

/-- The key and the item at a place. -/
def keyed (keys items : List Json) (i : Nat) : Json × Json := (keys[i]?.getD .null, items[i]?.getD .null)

theorem map_keyed (hlength : keys.length = items.length) :
    (List.range items.length).map (keyed keys items) = keys.zip items := by
  refine List.ext_getElem (by simp [hlength]) fun i hi hi' => ?_
  rw [List.length_map, List.length_range] at hi
  simp [keyed, hi, hlength]

theorem precedes_eq (hlength : keys.length = items.length) {i j : Nat} (hi : i < items.length)
    (hj : j < items.length) :
    precedes keys i j =
      some (Library.order (keyed keys items i).1 (keyed keys items j).1 != .gt) := by
  rw [← hlength] at hi hj
  simp [precedes, keyed, hi, hj]

theorem sortItems_eq (hlength : keys.length = items.length) :
    sortItems keys items = pure (Library.sortOn (keys.zip items)) := by
  have hcompare : ∀ i ∈ List.range items.length, ∀ j ∈ List.range items.length,
      precedes keys i j =
        some (Library.order (keyed keys items i).1 (keyed keys items j).1 != .gt) :=
    fun i hi j hj => precedes_eq hlength (List.mem_range.1 hi) (List.mem_range.1 hj)
  have hdefined : ((List.range items.length).all fun i =>
      (List.range items.length).all fun j => (precedes keys i j).isSome) = true :=
    List.all_eq_true.2 fun i hi => List.all_eq_true.2 fun j hj => by rw [hcompare i hi j hj]; rfl
  generalize horder : ((List.range items.length).mergeSort fun i j =>
    (precedes keys i j).getD true) = order
  have hplaces : ∀ i ∈ order, i < items.length := by
    rw [← horder]
    exact fun i hi => List.mem_range.1 (List.mem_mergeSort.1 hi)
  have hsorted : order.map (keyed keys items) =
      (keys.zip items).mergeSort fun a b => Library.order a.1 b.1 != .gt := by
    rw [← horder, ← map_keyed hlength]
    exact List.map_mergeSort fun i hi j hj => by rw [hcompare i hi j hj, Option.getD_some]
  have hpicked : order.filterMap (items[·]?) = (order.map (keyed keys items)).map Prod.snd := by
    rw [List.map_map, ← List.filterMap_eq_map]
    refine List.filterMap_congr fun i hi => ?_
    have hlt := hplaces i hi
    simp [keyed, hlt]
  rw [sortItems, sortPlaces, if_pos hdefined, pure_bind, horder, pick_eq hplaces, hpicked, hsorted]
  rfl

/-! ## Bodies by place -/

theorem map_eq : map [.of a, .of b] = .ran (Library.map [a, b]) := by
  rw [map, Library.map, access_eq rfl, access_eq rfl, pure_bind]
  refine asReference_bind fun body run => ?_
  rw [pure_bind]
  refine asArray_bind fun items => ?_
  rw [mapItems_eq]
  exact ran_bind fun _ _ => rfl

theorem extreme_eq (caller : String) (wanted : Ordering) :
    extreme caller wanted [.of a] = .ran (Library.extreme caller wanted [a]) := by
  have hmodel : Library.extreme caller wanted [a] = (Traced.ofExcept (Library.ownKeys caller [a]) >>=
      fun keyed => pure ((Library.extreme? wanted keyed).getD .null)) := Traced.ofExcept_bind _ _
  rw [hmodel]
  refine ownKeys_bind caller fun items => ?_
  have hzip : items.map (fun v => (v, v)) = items.zip items := by
    induction items with
    | nil => rfl
    | cons v rest ih => rw [List.map_cons, ih, List.zip_cons_cons]
  rw [hzip]
  exact extremeItem_eq rfl

theorem extremeBy_eq (caller : String) (wanted : Ordering) :
    extremeBy caller wanted [.of a, .of b] = .ran (Library.extremeBy caller wanted [a, b]) :=
  keysBy_bind caller fun _ _ hlength => extremeItem_eq hlength

theorem sortBy_eq : sortBy [.of a, .of b] = .ran (Library.sortBy [a, b]) :=
  keysBy_bind "sort_by" fun keys items hlength => by
    dsimp only
    rw [sortItems_eq hlength, pure_bind]
    rfl

/-- With the right number of arguments a body does not trap and does what the library does. -/
theorem byPlace_eq {fn : Function} {body : Body} (hmem : fn ∈ Library.arrays)
    (hbody : byPlace.lookup fn.name = some body) {args : List JsonQuery.Argument}
    (haccepts : fn.arity.accepts args.length = true) :
    body (args.map .of) = .ran (fn.body args) := by
  have hone : (Arity.fixed 1).accepts args.length = true → ∃ a, args = [a] := fun h =>
    List.length_eq_one_iff.1 (by simpa [Arity.accepts] using h)
  have htwo : (Arity.fixed 2).accepts args.length = true → ∃ a b, args = [a, b] := fun h =>
    List.length_eq_two.1 (by simpa [Arity.accepts] using h)
  simp only [Library.arrays, List.mem_cons, List.not_mem_nil, or_false] at hmem
  rcases hmem with rfl | rfl | rfl | rfl | rfl | rfl | rfl | rfl | rfl | rfl <;> cases hbody
  · obtain ⟨a, b, rfl⟩ := htwo haccepts
    exact map_eq
  · obtain ⟨a, rfl⟩ := hone haccepts
    exact extreme_eq _ _
  · obtain ⟨a, b, rfl⟩ := htwo haccepts
    exact extremeBy_eq _ _
  · obtain ⟨a, rfl⟩ := hone haccepts
    exact extreme_eq _ _
  · obtain ⟨a, b, rfl⟩ := htwo haccepts
    exact extremeBy_eq _ _
  · obtain ⟨a, b, rfl⟩ := htwo haccepts
    exact sortBy_eq

end Machine

end JsonQuery
