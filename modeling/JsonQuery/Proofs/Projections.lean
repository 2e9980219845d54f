import Mathlib
import JsonQuery.Engine
import JsonQuery.Proofs.Eval.Alike

/-!
# Laws of projections

* `Eval.settle` — what remains of a result in a call or at the end of a search: hard failures stay, soft
  ones become null; `Eval.settle_early`: it does not matter whether this happens on the way, too.
* `Eval.result_collect` — collecting is mapping between two removals of null.
* `Query.search_list_projection` — the projection of a list is `map` without the nulls.
* `Traced.value?` — the value of an evaluation, whatever the failure where it has none.
* `Eval.keep_keep` — keeping by one test and then by another is keeping by both.
* `Expr.filter_filter` — successive filters are a conjunction.
-/

namespace JsonQuery

theorem ok_bind {α β : Type} (a : α) (k : α → Except Failure β) : (Except.ok a >>= k) = k a := rfl

namespace Eval

/-! ## Absorbed failures -/

/-- What remains of a result in a call or at the end of a search: a soft failure becomes null. -/
def settle : Except Failure Json → Except Failure Json
  | .ok v => .ok v
  | .error f => if f.isHard then .error f else .ok .null

theorem result_absorb (x : Traced Json) (note : Failure → Note) :
    (x.absorb .null note).result = settle x.result := by
  unfold Traced.absorb settle
  cases hx : x.result with
  | ok v => rfl
  | error f => by_cases hf : f.isHard = true <;> simp [hf, hx]

/-- In a sequence only what remains of the later steps matters for what remains of the whole. -/
theorem settle_bind_congr {α : Type} (x : Except Failure α) {k l : α → Except Failure Json}
    (h : ∀ a, settle (k a) = settle (l a)) : settle (x >>= k) = settle (x >>= l) := by
  cases x with
  | error f => rfl
  | ok a => exact h a

/-- **Early or late.**  Where the later steps take null to null, a soft failure may become null before
them or behind them. -/
theorem settle_early {k : Json → Except Failure Json} (hk : k .null = .ok .null)
    (x : Except Failure Json) : settle (settle x >>= k) = settle (x >>= k) := by
  cases x with
  | ok v => rfl
  | error f =>
    by_cases hf : f.isHard = true
    · simp only [settle, hf, if_true]
    · have hsoft : settle (.error f) = .ok .null := by simp [settle, hf]
      rw [hsoft, ok_bind, hk]
      exact hsoft.symm

/-! ## Collecting and mapping -/

/-- Collecting is mapping between two removals of null. -/
theorem result_collect (run : Json → Traced Json) (items : List Json) :
    (collect run items).result =
      (Library.mapItems run (items.filter fun v => !v.isNull)).result >>= fun ws =>
        .ok (ws.filter fun w => !w.isNull) := by
  induction items with
  | nil => rfl
  | cons v rest ih =>
    by_cases hv : v.isNull = true
    · rw [collect, if_pos hv, ih, List.filter_cons_of_neg (by simp [hv])]
    · rw [collect, if_neg hv, List.filter_cons_of_pos (by simp [hv]), Library.mapItems]
      simp only [Traced.result_bind, Traced.result_pure, ih, bind_assoc, ok_bind]
      refine bind_congr fun w => bind_congr fun ws => ?_
      by_cases hw : w.isNull = true <;> simp [hw]

/-- Collecting the elements themselves removes the nulls. -/
theorem result_collect_current (r : Registry) (items : List Json) :
    (collect (Expr.eval r .current) items).result = .ok (items.filter fun v => !v.isNull) := by
  induction items with
  | nil => rfl
  | cons v rest ih =>
    by_cases hv : v.isNull = true
    · rw [collect, if_pos hv, ih, List.filter_cons_of_neg (by simp [hv])]
    · rw [collect, if_neg hv, List.filter_cons_of_pos (by simp [hv]), Expr.eval]
      simp only [Traced.result_bind, Traced.result_pure, ih, ok_bind, if_neg hv]

end Eval

/-! ## Lists and maps -/

variable {reasons : Reasons} {r : Registry}

theorem Expr.project_list_array (r : Registry) (e : Expr) (items : List Json) :
    ((Expr.project .list .current e).eval r (.array items)).result =
      (Eval.collect (e.eval r) items).result >>= fun ws => .ok (.array ws) := by
  rw [Expr.eval, Expr.eval, Traced.result_bind]
  show (Eval.collect (e.eval r) items >>= fun ws => pure (Json.array ws)).result = _
  rw [Traced.result_bind]
  rfl

theorem Expr.project_list_other (r : Registry) (e : Expr) {w : Json} (hw : ∀ items, w ≠ .array items) :
    ((Expr.project .list .current e).eval r w).result = .ok .null := by
  cases w with
  | array items => exact absurd rfl (hw items)
  | _ => rfl

/-- A call of `map` with a reference and one further argument. -/
theorem Expr.eval_call_map (hmap : r.find? "map" = (Library.functions reasons false).find? "map") (e a : Expr)
    (ha : ∀ body, a ≠ .reference body) (v : Json) :
    ((Expr.call "map" [.reference e, a]).eval r v).result =
      (a.eval r v).result >>= fun w => Eval.settle (Library.map [.reference e (e.eval r), .value w]).result := by
  have hfind : r.find? "map" = some ⟨"map", [], .fixed 2, Library.map⟩ := hmap.trans rfl
  obtain ⟨body, hbody, -⟩ | ⟨-, hargs⟩ := evalArguments_cons (r := r) a [] v
  · exact absurd hbody (ha body)
  · rw [Expr.eval, Eval.call, hfind]
    simp only [List.length_cons, List.length_nil, Nat.zero_add, Nat.reduceAdd, Arity.accepts, BEq.rfl,
      if_true, evalArguments, hargs, Traced.result_bind, Traced.result_pure, bind_assoc,
      Eval.result_absorb]
    rfl

/-- What `map` does with an array. -/
theorem Library.result_map (e : Expr) (run : Json → Traced Json) (items : List Json) :
    (map [.reference e run, .value (.array items)]).result =
      (mapItems run items).result >>= fun ws => .ok (.array ws) := by
  show (mapItems run items >>= fun ws => pure (Json.array ws)).result = _
  rw [Traced.result_bind]
  rfl

theorem Library.settle_map_null (e : Expr) (run : Json → Traced Json) :
    Eval.settle (map [.reference e run, .value .null]).result = .ok .null := rfl

/-- The elements of a value: a list's own, without the nulls; null for any other value. -/
def Expr.elements : Expr := .project .list .current .current

theorem Expr.elements_array (r : Registry) (items : List Json) :
    (elements.eval r (.array items)).result = .ok (.array (items.filter fun v => !v.isNull)) := by
  rw [elements, project_list_array, Eval.result_collect_current, ok_bind]

/-- On every value, projecting through `e` comes to the same as mapping `e` over the elements. -/
theorem Expr.settle_project_list (r : Registry) (e : Expr) (w : Json) :
    Eval.settle ((Expr.project .list .current e).eval r w).result =
      Eval.settle ((elements.eval r w).result >>= fun x =>
        Eval.settle (Library.map [.reference e (e.eval r), .value x]).result >>= fun u =>
          (elements.eval r u).result) := by
  have hearly := Eval.settle_early (k := fun u => (elements.eval r u).result) rfl
  by_cases harray : ∃ items, w = .array items
  · obtain ⟨items, rfl⟩ := harray
    -- what `map` absorbs would be absorbed at the end, so both sides are one sequence of evaluations
    rw [elements_array, ok_bind, hearly, Library.result_map, project_list_array,
      Eval.result_collect, bind_assoc, bind_assoc]
    refine congrArg Eval.settle (bind_congr fun ws => ?_)
    rw [ok_bind, ok_bind, elements_array]
  · have hother : ∀ items, w ≠ .array items := fun items h => harray ⟨items, h⟩
    rw [project_list_other r e hother, elements, project_list_other r .current hother, ok_bind,
      Library.settle_map_null, ok_bind]
    rfl

/-- **The projection of a list is `map` without the nulls.**  With the built-in `map`, projecting the
elements of `a` through `e` is searched with the same result as mapping `e` over the elements of `a` and
projecting what comes of it: the same value, null where `a` is no array or something fails softly, and the
same hard failure. -/
theorem Query.search_list_projection (hmap : r.find? "map" = (Library.functions reasons false).find? "map")
    (source source' : String) (a e : Expr) (document : Json) :
    ((Query.mk source (.project .list a e) r).search document).result =
      ((Query.mk source' (.pipe (.call "map" [.reference e, .project .list a .current])
        (.project .list .current .current)) r).search document).result := by
  have hcall := Expr.eval_call_map hmap e (.project .list a .current) nofun document
  have hpipe := Traced.result_bind
    ((Expr.call "map" [.reference e, .project .list a .current]).eval r document) (Expr.elements.eval r)
  calc ((Query.mk source (.project .list a e) r).search document).result
      = Eval.settle ((Expr.project .list a e).eval r document).result := Eval.result_absorb _ _
    _ = Eval.settle ((a.eval r document).result >>= fun w =>
          ((Expr.project .list .current e).eval r w).result) := by
        rw [(Expr.behind_project .list a e).2 document]
    _ = Eval.settle ((a.eval r document).result >>= fun w => (Expr.elements.eval r w).result >>= fun x =>
          Eval.settle (Library.map [.reference e (e.eval r), .value x]).result >>= fun u =>
            (Expr.elements.eval r u).result) :=
        Eval.settle_bind_congr _ fun w => Expr.settle_project_list r e w
    _ = Eval.settle (((Expr.call "map" [.reference e, .project .list a .current]).eval r document).result >>=
          fun u => (Expr.elements.eval r u).result) := by
        rw [hcall, (Expr.behind_project .list a .current).2 document, bind_assoc, bind_assoc]
        rfl
    _ = Eval.settle ((Expr.pipe (.call "map" [.reference e, .project .list a .current])
          Expr.elements).eval r document).result := by
        rw [← hpipe, Expr.eval]
    _ = _ := (Eval.result_absorb _ _).symm

/-- One element is no base64 text and another one no JSON text, which are hard failures of two kinds: the first one in
the list is that of the search.  Null is not evaluated. -/
theorem Query.search_list_projection_hard :
    let reasons : Reasons := { Reasons.plain with
      base64 := fun _ => "Invalid symbol 33, offset 0."
      json := fun _ => "EOF while parsing an object at line 1 column 1" }
    let r := Library.functions reasons true
    let projected : Query := ⟨"a[*].base64(@)", .project .list (.identifier "a") (.call "base64" [.current]), r⟩
    let mapped : Query := ⟨"map(&base64(@), a[*]) | [*]",
      .pipe (.call "map" [.reference (.call "base64" [.current]), .project .list (.identifier "a") .current])
        (.project .list .current .current), r⟩
    let document (texts : List String) : Json := .object [("a", .array (.null :: texts.map .string))]
    r.find? "map" = (Library.functions reasons false).find? "map" ∧
      ((projected.search (document ["e30=", "!!!", "ew=="])).result =
          .error (.badBase64 "Invalid symbol 33, offset 0.") ∧
        (mapped.search (document ["e30=", "!!!", "ew=="])).result =
          .error (.badBase64 "Invalid symbol 33, offset 0.")) ∧
      (projected.search (document ["e30=", "ew==", "!!!"])).result =
          .error (.badJson "EOF while parsing an object at line 1 column 1") ∧
        (mapped.search (document ["e30=", "ew==", "!!!"])).result =
          .error (.badJson "EOF while parsing an object at line 1 column 1") := by
  intro reasons r projected mapped document
  have hmap : r.find? "map" = (Library.functions reasons false).find? "map" := rfl
  have hbase64 : (projected.search (document ["e30=", "!!!", "ew=="])).result =
      .error (.badBase64 "Invalid symbol 33, offset 0.") := by cbv
  have hjson : (projected.search (document ["e30=", "ew==", "!!!"])).result =
      .error (.badJson "EOF while parsing an object at line 1 column 1") := by cbv
  have hsame := Query.search_list_projection hmap projected.source mapped.source (.identifier "a")
    (.call "base64" [.current])
  exact ⟨hmap, ⟨hbase64, (hsame _).symm.trans hbase64⟩, hjson, (hsame _).symm.trans hjson⟩

/-! ## Values -/

/-- The value of an evaluation, none where it fails. -/
def Traced.value? {α : Type} (x : Traced α) : Option α := x.result.toOption

theorem Traced.value?_bind {α β : Type} (x : Traced α) (k : α → Traced β) :
    (x >>= k).value? = x.value?.bind fun a => (k a).value? := by
  rw [value?, value?, Traced.result_bind]
  cases x.result <;> rfl

@[simp] theorem Traced.value?_pure {α : Type} (a : α) : (pure a : Traced α).value? = some a := rfl

/-- Two evaluations have the same value if they have one, and else both fail. -/
theorem Traced.result_of_value? {α : Type} {x y : Traced α} (h : x.value? = y.value?) :
    (∃ f g, x.result = .error f ∧ y.result = .error g) ∨ ∃ a, x.result = .ok a ∧ y.result = .ok a := by
  rw [value?, value?] at h
  cases hx : x.result with
  | error f =>
    cases hy : y.result with
    | error g => exact .inl ⟨f, g, rfl, rfl⟩
    | ok b =>
      rw [hx, hy] at h
      cases h
  | ok a =>
    cases hy : y.result with
    | error g =>
      rw [hx, hy] at h
      cases h
    | ok b =>
      rw [hx, hy] at h
      cases h
      exact .inr ⟨a, rfl, rfl⟩

/-! ## Two filters -/

namespace Eval

/-- The second test is made only where the first one gives a true value. -/
def both (p q : Json → Traced Json) (v : Json) : Traced Json :=
  p v >>= fun left => if left.isTruthy then q v else pure left

/-- The nulls among the elements do not matter. -/
theorem keep_filter (test : Json → Traced Json) (items : List Json) :
    keep test (items.filter fun v => !v.isNull) = keep test items := by
  induction items with
  | nil => rfl
  | cons v rest ih =>
    by_cases hv : v.isNull = true
    · rw [List.filter_cons_of_neg (by simp [hv]), keep, if_pos hv, ih]
    · rw [List.filter_cons_of_pos (by simp [hv]), keep, keep, if_neg hv, if_neg hv, ih]

/-- **Keeping by one test and then by another one is keeping by both.**  The tests are made in another
order, so only the values agree: where one of them fails, the failures may differ. -/
theorem keep_keep (p q : Json → Traced Json) (items : List Json) :
    ((keep p items).value?.bind fun kept => (keep q kept).value?) = (keep (both p q) items).value? := by
  induction items with
  | nil => rfl
  | cons v rest ih =>
    by_cases hv : v.isNull = true
    · rw [keep, keep, if_pos hv, if_pos hv, ih]
    · rw [keep, keep, if_neg hv, if_neg hv, both]
      simp only [Traced.value?_bind, Traced.value?_pure, Option.bind_assoc, Option.bind_some]
      refine congrArg _ (funext fun left => ?_)
      by_cases hleft : left.isTruthy = true
      · simp only [hleft, if_true, keep, hv, Bool.false_eq_true, if_false, Traced.value?_bind,
          Traced.value?_pure, ← ih, Option.bind_assoc]
        -- one side tests the rest by `p` before it tests `v` by `q`, the other side afterwards
        exact Option.bind_comm _ _
      · simp only [hleft, Bool.false_eq_true, if_false, Traced.value?_pure, Option.bind_some, ih,
          Option.bind_fun_some]

end Eval

namespace Expr

theorem value?_filter (r : Registry) (p l e : Expr) (v : Json) :
    ((Expr.filter p l e).eval r v).value? =
      (l.eval r v).value?.bind fun w => ((Expr.filter p .current e).eval r w).value? := by
  rw [Expr.eval, Traced.value?_bind]
  refine congrArg _ (funext fun w => ?_)
  rw [Expr.eval, Expr.eval, Traced.value?_bind]
  rfl

theorem value?_filter_array (r : Registry) (p e : Expr) (items : List Json) :
    ((Expr.filter p .current e).eval r (.array items)).value? =
      (Eval.keep (p.eval r) items).value?.bind fun kept =>
        (Eval.collect (e.eval r) kept).value?.bind fun ws => some (.array ws) := by
  rw [Expr.eval, Expr.eval]
  show (Eval.keep (p.eval r) items >>= fun kept => Eval.collect (e.eval r) kept >>= fun ws =>
    pure (Json.array ws)).value? = _
  simp only [Traced.value?_bind, Traced.value?_pure]

theorem value?_filter_other (r : Registry) (p e : Expr) {w : Json} (hw : ∀ items, w ≠ .array items) :
    ((Expr.filter p .current e).eval r w).value? = some .null := by
  cases w with
  | array items => exact absurd rfl (hw items)
  | _ => rfl

/-- On every value, one filter behind another keeps what their conjunction keeps. -/
theorem value?_filter_filter (r : Registry) (p q e : Expr) (w : Json) :
    (((Expr.filter p .current .current).eval r w).value?.bind fun u =>
      ((Expr.filter q .current e).eval r u).value?) =
        ((Expr.filter (.binary .and p q) .current e).eval r w).value? := by
  by_cases harray : ∃ items, w = .array items
  · obtain ⟨items, rfl⟩ := harray
    have hcurrent : ∀ kept, (Eval.collect (Expr.eval r .current) kept).value? =
        some (kept.filter fun v => !v.isNull) := by
      intro kept
      rw [Traced.value?, Eval.result_collect_current]
      rfl
    have hand : (Expr.binary .and p q).eval r = Eval.both (p.eval r) (q.eval r) := by
      funext v
      rw [Expr.eval, Eval.both]
    simp only [value?_filter_array, hcurrent, hand, Option.bind_assoc, Option.bind_some,
      Eval.keep_filter, ← Eval.keep_keep]
  · have hother : ∀ items, w ≠ .array items := fun items h => harray ⟨items, h⟩
    rw [value?_filter_other r p .current hother, value?_filter_other r _ e hother]
    rfl

/-- **Successive filters are a conjunction.**  Filtering by `p` and what is kept by `q`, and filtering by
`p && q`, both fail or have the same value. -/
theorem filter_filter (r : Registry) (l p q e : Expr) (v : Json) :
    (∃ f g, ((Expr.filter q (.filter p l .current) e).eval r v).result = .error f ∧
      ((Expr.filter (.binary .and p q) l e).eval r v).result = .error g) ∨
    ∃ w, ((Expr.filter q (.filter p l .current) e).eval r v).result = .ok w ∧
      ((Expr.filter (.binary .and p q) l e).eval r v).result = .ok w := by
  refine Traced.result_of_value? ?_
  calc ((Expr.filter q (.filter p l .current) e).eval r v).value?
      = ((Expr.filter p l .current).eval r v).value?.bind fun u =>
          ((Expr.filter q .current e).eval r u).value? := value?_filter r q _ e v
    _ = (l.eval r v).value?.bind fun w => ((Expr.filter p .current .current).eval r w).value?.bind fun u =>
          ((Expr.filter q .current e).eval r u).value? := by
        rw [value?_filter r p l, Option.bind_assoc]
    _ = (l.eval r v).value?.bind fun w =>
          ((Expr.filter (.binary .and p q) .current e).eval r w).value? :=
        congrArg _ (funext fun w => value?_filter_filter r p q e w)
    _ = ((Expr.filter (.binary .and p q) l e).eval r v).value? := (value?_filter r _ l e v).symm

end Expr

end JsonQuery
