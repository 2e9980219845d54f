import JsonQuery.Proofs.Eval.Calls
import JsonQuery.Proofs.Json.Members

/-!
# Merging objects

* `Library.result_merge` — the body of `merge` sets the members of its arguments one after another.
* `Expr.eval_merge` — so a call of `merge` does.
* `Expr.eval_multiHash` — a hash sets its values one after another.
* `Expr.merge_ordered_map` — the laws of `merge`: what is in its result, in which order, that groups may be
  merged first, and that a hash is the merge of its members.
-/

namespace JsonQuery

open Json (Members setAll SetInOrder)

/-! ## Bodies -/

namespace Library

theorem mapM_asObject (os : List Members) :
    (os.map fun o => Argument.value (.object o)).mapM Argument.asObject = .ok os := by
  induction os with
  | nil => rfl
  | cons o rest ih =>
    rw [List.map_cons, List.mapM_cons, ih]
    rfl

/-- The members of the arguments are set one after another. -/
theorem result_merge (os : List Members) :
    (merge ((os.map Json.object).map .value)).result = .ok (.object (setAll os.flatten [])) := by
  have hobjects : (os.map Json.object).map Argument.value = os.map fun o => .value (.object o) :=
    List.map_map
  rw [hobjects]
  show (Traced.ofExcept (_ >>= _)).result = _
  rw [Traced.result_ofExcept, mapM_asObject]
  rfl

end Library

namespace Expr

variable {reasons : Reasons} {r : Registry} {v : Json} {e : Expr} {es : List Expr} {o m : Members} {os : List Members}

/-! ## Calls -/

/-- A call of `merge` on objects. -/
theorem eval_merge (hmerge : r.find? "merge" = (Library.functions reasons false).find? "merge") (hne : es ≠ [])
    (h : Evaluates r v es (os.map .object)) :
    ((Expr.call "merge" es).eval r v).result = .ok (.object (setAll os.flatten [])) := by
  have hfind : r.find? "merge" = some ⟨"merge", [], .variadic 1, Library.merge⟩ := hmerge.trans rfl
  have haccepts : Arity.accepts (.variadic 1) es.length = true :=
    decide_eq_true (List.length_pos_iff.2 hne)
  rw [eval_call_values hfind haccepts h, Library.result_merge]
  rfl

theorem eval_keys (hkeys : r.find? "keys" = (Library.functions reasons false).find? "keys")
    (h : (e.eval r v).result = .ok (.object m)) :
    ((Expr.call "keys" [e]).eval r v).result = .ok (.array (m.map fun p => .string p.1)) := by
  have hfind : r.find? "keys" = some ⟨"keys", [], .fixed 1, Library.keys⟩ := hkeys.trans rfl
  have hargument : Evaluates r v [e] [.object m] := .cons h .nil
  rw [eval_call_values hfind rfl hargument]
  rfl

theorem eval_values (hvalues : r.find? "values" = (Library.functions reasons false).find? "values")
    (h : (e.eval r v).result = .ok (.object m)) :
    ((Expr.call "values" [e]).eval r v).result = .ok (.array (m.map Prod.snd)) := by
  have hfind : r.find? "values" = some ⟨"values", [], .fixed 1, Library.values⟩ := hvalues.trans rfl
  have hargument : Evaluates r v [e] [.object m] := .cons h .nil
  rw [eval_call_values hfind rfl hargument]
  rfl

/-- Groups of arguments may be merged first. -/
theorem eval_merge_groups (hmerge : r.find? "merge" = (Library.functions reasons false).find? "merge")
    {groups : List (List Expr)} (hne : groups ≠ [])
    (h : ∀ es ∈ groups, es ≠ [] ∧ ∀ e ∈ es, ∃ o, (e.eval r v).result = .ok (.object o)) :
    ((Expr.call "merge" (groups.map (.call "merge"))).eval r v).result =
      ((Expr.call "merge" groups.flatten).eval r v).result := by
  obtain ⟨oss, hoss⟩ : ∃ oss : List (List Members),
      List.Forall₂ (fun es os => es ≠ [] ∧ Evaluates r v es (os.map .object)) groups oss :=
    exists_forall₂ fun es hes => by
      obtain ⟨hne, hobjects⟩ := h es hes
      obtain ⟨os, hos⟩ := exists_evaluates Json.object hobjects
      exact ⟨os, hne, hos⟩
  have hinner : Evaluates r v (groups.map (.call "merge"))
      ((oss.map fun os => setAll os.flatten []).map .object) := by
    rw [List.map_map]
    refine List.forall₂_map_left_iff.2 (List.forall₂_map_right_iff.2 (hoss.imp fun es os hes => ?_))
    exact eval_merge hmerge hes.1 hes.2
  have houter : Evaluates r v groups.flatten (oss.flatten.map .object) := by
    rw [List.map_flatten]
    exact List.rel_flatten (List.forall₂_map_right_iff.2 (hoss.imp fun _ _ hes => hes.2))
  have hflatten : groups.flatten ≠ [] := by
    obtain ⟨es, rest, rfl⟩ := List.exists_cons_of_ne_nil hne
    exact List.append_ne_nil_of_left_ne_nil (h es List.mem_cons_self).1 _
  have hgroups := Json.setAll_groups (oss.map List.flatten) []
  rw [List.map_map, ← List.flatten_flatten] at hgroups
  rw [eval_merge hmerge (by simpa using hne) hinner, eval_merge hmerge hflatten houter, ← hgroups]
  rfl

/-! ## Hashes -/

/-- A hash sets its values one after another. -/
theorem eval_multiHash {pairs : List (String × Expr)} {ws : List Json} (hv : v.isNull = false)
    (h : Evaluates r v (pairs.map Prod.snd) ws) :
    ((Expr.multiHash pairs).eval r v).result = .ok (.object (setAll ((pairs.map Prod.fst).zip ws) [])) := by
  rw [Expr.eval, hv]
  exact Traced.result_bind_ok.2 ⟨_, result_evalPairs h, rfl⟩

/-- The hashes of one member each. -/
theorem evaluates_singles {pairs : List (String × Expr)} {ws : List Json} (hv : v.isNull = false)
    (h : Evaluates r v (pairs.map Prod.snd) ws) :
    Evaluates r v (pairs.map fun p => .multiHash [p])
      ((((pairs.map Prod.fst).zip ws).map fun m => [m]).map .object) := by
  induction pairs generalizing ws with
  | nil => exact .nil
  | cons p rest ih =>
    cases h with
    | @cons _ w _ _ he h =>
      have hsingle : Evaluates r v ([p].map Prod.snd) [w] := .cons he .nil
      exact .cons (eval_multiHash hv hsingle) (ih h)

/-- **Merging is an ordered map.**  With the built-in `merge`, `keys` and `values`:

* a call of `merge` on objects gives the object that has each of their keys once, in the order of their first
  occurrences, with its last value; `keys` and `values` list this object member by member;
* consecutive arguments may be merged in groups first;
* an object merged with itself is that object;
* a hash on a value that is not null whose items all have values is the merge of its members as hashes, which
  a call of `merge` gives where there are any. -/
theorem merge_ordered_map (hmerge : r.find? "merge" = (Library.functions reasons false).find? "merge")
    (hkeys : r.find? "keys" = (Library.functions reasons false).find? "keys")
    (hvalues : r.find? "values" = (Library.functions reasons false).find? "values") (v : Json) :
    (∀ es (os : List Members), es ≠ [] → Evaluates r v es (os.map .object) →
      ∃ m, SetInOrder os.flatten m ∧
        ((Expr.call "merge" es).eval r v).result = .ok (.object m) ∧
        ((Expr.call "keys" [.call "merge" es]).eval r v).result = .ok (.array (m.map fun p => .string p.1)) ∧
        ((Expr.call "values" [.call "merge" es]).eval r v).result = .ok (.array (m.map Prod.snd))) ∧
    (∀ groups : List (List Expr), groups ≠ [] →
      (∀ es ∈ groups, es ≠ [] ∧ ∀ e ∈ es, ∃ o, (e.eval r v).result = .ok (.object o)) →
      ((Expr.call "merge" (groups.map (.call "merge"))).eval r v).result =
        ((Expr.call "merge" groups.flatten).eval r v).result) ∧
    (∀ e o, (o.map Prod.fst).Nodup → (e.eval r v).result = .ok (.object o) →
      ((Expr.call "merge" [e, e]).eval r v).result = .ok (.object o)) ∧
    (∀ pairs : List (String × Expr), v.isNull = false → (∀ p ∈ pairs, ∃ w, (p.2.eval r v).result = .ok w) →
      ∃ os : List Members, Evaluates r v (pairs.map fun p => .multiHash [p]) (os.map .object) ∧
        ((Expr.multiHash pairs).eval r v).result = .ok (Library.mergeAll os) ∧
        (pairs ≠ [] → ((Expr.call "merge" (pairs.map fun p => .multiHash [p])).eval r v).result =
          .ok (Library.mergeAll os))) := by
  refine ⟨fun es os hne h => ?_, fun groups hne h => eval_merge_groups hmerge hne h, fun e o hnodup h => ?_,
    fun pairs hv h => ?_⟩
  · have hmerged := eval_merge hmerge hne h
    exact ⟨_, Json.setAll_inOrder _, hmerged, eval_keys hkeys hmerged, eval_values hvalues hmerged⟩
  · have htwice : Evaluates r v [e, e] ([o, o].map .object) := .cons h (.cons h .nil)
    rw [eval_merge hmerge (List.cons_ne_nil _ _) htwice, List.flatten_cons, List.flatten_cons, List.flatten_nil,
      List.append_nil, (Json.setAll_inOrder (o ++ o)).unique (Json.setInOrder_twice hnodup)]
  · have hitems : ∀ e ∈ pairs.map Prod.snd, ∃ w, (e.eval r v).result = .ok (id w) := by
      rintro e he
      obtain ⟨p, hp, rfl⟩ := List.mem_map.1 he
      exact h p hp
    obtain ⟨ws, hws⟩ := exists_evaluates id hitems
    rw [List.map_id] at hws
    have hsingles := evaluates_singles hv hws
    refine ⟨_, hsingles, ?_, fun hne => eval_merge hmerge (by simpa using hne) hsingles⟩
    rw [eval_multiHash hv hws, Library.mergeAll, ← List.flatMap_def, List.flatMap_singleton']
    rfl

/-- Two objects with a key in common, in two groups of unequal size, and a hash that repeats a key. -/
theorem merge_ordered_map_overlapping :
    let r := Library.functions .plain true
    let other : Members := [("a", .null), ("b", .bool false)]
    let own : Members := [("b", .bool true), ("c", .null)]
    let v : Json := .object own
    let es : List Expr := [.literal (.object other), .current]
    let groups : List (List Expr) := [[.current], es]
    let pairs : List (String × Expr) := [("k", .identifier "b"), ("l", .current), ("k", .identifier "c")]
    (es ≠ [] ∧ Evaluates r v es ([other, own].map .object) ∧
      ∃ m, SetInOrder [other, own].flatten m ∧ ((Expr.call "merge" es).eval r v).result = .ok (.object m) ∧
        ((Expr.call "keys" [.call "merge" es]).eval r v).result = .ok (.array (m.map fun p => .string p.1)) ∧
        ((Expr.call "values" [.call "merge" es]).eval r v).result = .ok (.array (m.map Prod.snd))) ∧
    (groups ≠ [] ∧ (∀ es ∈ groups, es ≠ [] ∧ ∀ e ∈ es, ∃ o, (e.eval r v).result = .ok (.object o)) ∧
      ((Expr.call "merge" (groups.map (.call "merge"))).eval r v).result =
        ((Expr.call "merge" groups.flatten).eval r v).result) ∧
    ((own.map Prod.fst).Nodup ∧ (Expr.current.eval r v).result = .ok (.object own) ∧
      ((Expr.call "merge" [.current, .current]).eval r v).result = .ok (.object own)) ∧
    v.isNull = false ∧ (∀ p ∈ pairs, ∃ w, (p.2.eval r v).result = .ok w) ∧
      ∃ os : List Members, Evaluates r v (pairs.map fun p => .multiHash [p]) (os.map .object) ∧
        ((Expr.multiHash pairs).eval r v).result = .ok (Library.mergeAll os) ∧
        ((Expr.call "merge" (pairs.map fun p => .multiHash [p])).eval r v).result = .ok (Library.mergeAll os) := by
  intro r other own v es groups pairs
  have hbuiltin : r.find? "merge" = (Library.functions .plain false).find? "merge" := rfl
  obtain ⟨hmerge, hgroups, htwice, hhash⟩ := merge_ordered_map hbuiltin rfl rfl v
  have hes : Evaluates r v es ([other, own].map .object) := .cons rfl (.cons rfl .nil)
  have hobjects : ∀ es ∈ groups, es ≠ [] ∧ ∀ e ∈ es, ∃ o, (e.eval r v).result = .ok (.object o) := by
    simp only [groups, es, List.forall_mem_cons, List.not_mem_nil, false_implies, implies_true, and_true]
    exact ⟨⟨nofun, own, rfl⟩, nofun, ⟨other, rfl⟩, own, rfl⟩
  have hnodup : (own.map Prod.fst).Nodup := by decide
  have hpairs : ∀ p ∈ pairs, ∃ w, (p.2.eval r v).result = .ok w := by
    simp only [pairs, List.forall_mem_cons, List.not_mem_nil, false_implies, implies_true, and_true]
    exact ⟨⟨_, rfl⟩, ⟨_, rfl⟩, _, rfl⟩
  obtain ⟨os, hos, hall, hcall⟩ := hhash pairs rfl hpairs
  exact ⟨⟨nofun, hes, hmerge es _ nofun hes⟩, ⟨nofun, hobjects, hgroups groups nofun hobjects⟩,
    ⟨hnodup, rfl, htwice _ _ hnodup rfl⟩, rfl, hpairs, os, hos, hall, hcall nofun⟩

end Expr

end JsonQuery
