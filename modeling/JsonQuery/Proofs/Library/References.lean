import JsonQuery.Engine
import JsonQuery.Proofs.Eval.Congruence
import JsonQuery.Proofs.Registry

/-!
# Functions and the references among their arguments

* `Argument.Agree` — two arguments are the same value, or references with the same results.
* `Body.Respects` — arguments that agree have the same result.
* `Library.functions_related` — a built-in function has related results on related arguments, whatever
  the relation; `Library.functions_respects` — so it has the same result on arguments that agree.
-/

namespace JsonQuery

/-- Two arguments are the same value, or references with the same results. -/
inductive Argument.Agree : Argument → Argument → Prop
  | value (v : Json) : Agree (.value v) (.value v)
  | reference {body body' : Expr} {run run' : Json → Traced Json} :
      (∀ v, (run v).result = (run' v).result) → Agree (.reference body run) (.reference body' run')

/-- Arguments that agree have the same result. -/
def Body.Respects (b : Body) : Prop :=
  ∀ args args', List.Forall₂ Argument.Agree args args' → (b args).result = (b args').result

/-- All functions of a registry look at references through their results only. -/
def Registry.Respects (r : Registry) : Prop :=
  ∀ name fn, r.find? name = some fn → fn.body.Respects

/-- Arguments agree if they are related by the equality of results. -/
theorem Argument.agree_iff {a a' : Argument} : Agree a a' ↔ Related .equality a a' := by
  constructor
  · rintro (v | h)
    · exact .value v
    · exact .reference h
  · rintro (v | h)
    · exact .value v
    · exact .reference h

theorem Body.respects_iff {b : Body} : b.Respects ↔ Related .equality b b := by
  have hagree : Argument.Agree = Argument.Related .equality := by
    funext a a'
    exact propext Argument.agree_iff
  unfold Respects
  rw [hagree]
  rfl

variable {Q : Congruence}

namespace Argument

variable {a a' : Argument}

theorem Related.asJson (h : Related Q a a') : a.asJson = a'.asJson := by
  cases h <;> rfl

theorem Related.asArray (h : Related Q a a') : a.asArray = a'.asArray := by
  cases h <;> rfl

theorem Related.asObject (h : Related Q a a') : a.asObject = a'.asObject := by
  cases h <;> rfl

theorem Related.asString (h : Related Q a a') : a.asString = a'.asString := by
  cases h <;> rfl

theorem Related.asNumber (h : Related Q a a') : a.asNumber = a'.asNumber := by
  cases h <;> rfl

theorem Related.kind? (h : Related Q a a') : a.kind? = a'.kind? := by
  cases h <;> rfl

end Argument

namespace Library

variable {α : Type} {args args' : List Argument}

/-- What is done with the argument at a place. -/
theorem nth_bind_related (hargs : List.Forall₂ (Argument.Related Q) args args')
    {k k' : Argument → Except Failure α} (hk : ∀ a a', Argument.Related Q a a' → k a = k' a') (i : Nat) :
    (Argument.nth args i >>= k) = Argument.nth args' i >>= k' := by
  unfold Argument.nth
  induction hargs generalizing i with
  | nil => rfl
  | cons h _ ih =>
    cases i with
    | zero => exact hk _ _ h
    | succ i => simpa using ih i

/-! ## Functions of values -/

theorem plain_related {f : List Argument → Except Failure Json}
    (hf : ∀ args args', List.Forall₂ (Argument.Related Q) args args' → f args = f args') :
    Body.Related Q (.plain f) (.plain f) := by
  intro args args' hargs
  unfold Body.plain
  rw [hf args args' hargs]
  exact Q.refl _

theorem ofNumber_related (f : Number → Option Number) : Body.Related Q (ofNumber f) (ofNumber f) :=
  plain_related fun _ _ hargs => nth_bind_related hargs (fun _ _ h => by rw [h.asNumber]) 0

theorem ofNumbers_related (caller : String) (f : List Number → Option Number) :
    Body.Related Q (ofNumbers caller f) (ofNumbers caller f) :=
  plain_related fun _ _ hargs => nth_bind_related hargs (fun _ _ h => by rw [h.asArray]) 0

theorem contains_related : Body.Related Q contains contains := by
  refine plain_related fun args args' hargs => nth_bind_related hargs (fun _ _ h => ?_) 0
  rw [h.asJson]
  refine bind_congr fun v => ?_
  cases v with
  | array items => exact nth_bind_related hargs (fun _ _ h => by rw [h.asJson]) 1
  | string s => exact nth_bind_related hargs (fun _ _ h => by rw [h.asString]) 1
  | _ => rfl

theorem ofTwoStrings_related (test : List Char → List Char → Bool) :
    Body.Related Q (ofTwoStrings test) (ofTwoStrings test) := by
  refine plain_related fun args args' hargs => nth_bind_related hargs (fun _ _ h => ?_) 0
  rw [h.asString]
  exact bind_congr fun s => nth_bind_related hargs (fun _ _ h => by rw [h.asString]) 1

theorem join_related : Body.Related Q join join := by
  refine plain_related fun args args' hargs => nth_bind_related hargs (fun _ _ h => ?_) 0
  rw [h.asString]
  exact bind_congr fun s => nth_bind_related hargs (fun _ _ h => by rw [h.asArray]) 1

theorem typeName_related : Body.Related Q typeName typeName :=
  plain_related fun _ _ hargs => nth_bind_related hargs (fun _ _ h => by rw [h.kind?]) 0

/-- A function that looks at its first argument as a value. -/
theorem asJson_related {f : Json → Except Failure Json} :
    Body.Related Q (.plain fun args => do f (← (← Argument.nth args 0).asJson))
      (.plain fun args => do f (← (← Argument.nth args 0).asJson)) :=
  plain_related fun _ _ hargs => nth_bind_related hargs (fun _ _ h => by rw [h.asJson]) 0

/-- A function that looks at its first argument as an object. -/
theorem asObject_related {f : Json.Members → Except Failure Json} :
    Body.Related Q (.plain fun args => do f (← (← Argument.nth args 0).asObject))
      (.plain fun args => do f (← (← Argument.nth args 0).asObject)) :=
  plain_related fun _ _ hargs => nth_bind_related hargs (fun _ _ h => by rw [h.asObject]) 0

/-- A function that looks at its first argument as a string. -/
theorem asString_related {f : String → Except Failure Json} :
    Body.Related Q (.plain fun args => do f (← (← Argument.nth args 0).asString))
      (.plain fun args => do f (← (← Argument.nth args 0).asString)) :=
  plain_related fun _ _ hargs => nth_bind_related hargs (fun _ _ h => by rw [h.asString]) 0

theorem merge_related : Body.Related Q merge merge := by
  refine plain_related fun args args' hargs => ?_
  have hmembers : args.mapM Argument.asObject = args'.mapM Argument.asObject := by
    induction hargs with
    | nil => rfl
    | cons h _ ih => rw [List.mapM_cons, List.mapM_cons, h.asObject, ih]
  rw [hmembers]

theorem ownKeys_related (hargs : List.Forall₂ (Argument.Related Q) args args') (caller : String) :
    ownKeys caller args = ownKeys caller args' :=
  nth_bind_related hargs (fun _ _ h => by rw [h.asArray]) 0

theorem firstNotNull_related (hargs : List.Forall₂ (Argument.Related Q) args args') :
    firstNotNull args = firstNotNull args' := by
  induction hargs with
  | nil => rfl
  | cons h _ ih => rw [firstNotNull, firstNotNull, h.asJson, ih]

/-! ## Functions of references -/

/-- What is done with the reference at a place. -/
theorem reference_bind_related (hargs : List.Forall₂ (Argument.Related Q) args args')
    {k k' : Expr × (Json → Traced Json) → Traced α}
    (hk : ∀ p p', (∀ v, Q.holds (p.2 v).result (p'.2 v).result) → Q.holds (k p).result (k' p').result)
    (i : Nat) :
    Q.holds (Traced.ofExcept (Argument.nth args i >>= Argument.asReference) >>= k).result
      (Traced.ofExcept (Argument.nth args' i >>= Argument.asReference) >>= k').result := by
  unfold Argument.nth
  induction hargs generalizing i with
  | nil => exact Q.refl (.error _)
  | cons h _ ih =>
    cases i with
    | zero =>
      cases h with
      | value => exact Q.refl (.error _)
      | @reference body body' run run' hrun =>
        change Q.holds (Traced.ofExcept (.ok (body, run)) >>= k).result
          (Traced.ofExcept (.ok (body', run')) >>= k').result
        rw [Traced.result_bind, Traced.result_bind]
        exact hk _ _ hrun
    | succ i => simpa using ih i

/-- What is done with the array at a place. -/
theorem array_bind_related (hargs : List.Forall₂ (Argument.Related Q) args args')
    {k k' : List Json → Traced α} (hk : ∀ items, Q.holds (k items).result (k' items).result) (i : Nat) :
    Q.holds (Traced.ofExcept (Argument.nth args i >>= Argument.asArray) >>= k).result
      (Traced.ofExcept (Argument.nth args' i >>= Argument.asArray) >>= k').result := by
  rw [nth_bind_related hargs (fun _ _ h => h.asArray) i]
  exact Q.traced_bind (Q.refl _) hk

theorem keysBy_related (hargs : List.Forall₂ (Argument.Related Q) args args') (caller : String) :
    Q.holds (keysBy caller args).result (keysBy caller args').result := by
  refine array_bind_related hargs (fun items => ?_) 0
  refine reference_bind_related hargs (fun p p' hrun => ?_) 1
  exact Q.traced_bind (Q.mapItems hrun items) fun keys => Q.refl _

theorem map_related : Body.Related Q map map := by
  intro args args' hargs
  refine reference_bind_related hargs (fun p p' hrun => ?_) 0
  refine array_bind_related hargs (fun items => ?_) 1
  exact Q.traced_bind (Q.mapItems hrun items) fun ws => Q.refl _

/-! ## All functions -/

theorem math_related {fn : Function} (h : fn ∈ math) : Body.Related Q fn.body fn.body := by
  simp only [math, List.mem_cons, List.not_mem_nil, or_false] at h
  rcases h with rfl | rfl | rfl | rfl | rfl <;> dsimp only
  · exact ofNumber_related _
  · exact ofNumbers_related _ _
  · exact ofNumber_related _
  · exact ofNumber_related _
  · exact ofNumbers_related _ _

theorem strings_related {fn : Function} (h : fn ∈ strings) : Body.Related Q fn.body fn.body := by
  simp only [strings, List.mem_cons, List.not_mem_nil, or_false] at h
  rcases h with rfl | rfl | rfl | rfl | rfl | rfl | rfl | rfl <;> dsimp only
  · exact contains_related
  · exact ofTwoStrings_related _
  · exact join_related
  · exact asJson_related
  · exact ofTwoStrings_related _
  · exact asJson_related
  · exact asJson_related
  · exact typeName_related

theorem arrays_related {fn : Function} (h : fn ∈ arrays) : Body.Related Q fn.body fn.body := by
  have hextreme : ∀ caller wanted, Body.Related Q (extreme caller wanted) (extreme caller wanted) :=
    fun caller wanted => plain_related fun _ _ hargs => by rw [ownKeys_related hargs]
  have hextremeBy : ∀ caller wanted,
      Body.Related Q (extremeBy caller wanted) (extremeBy caller wanted) :=
    fun caller wanted _ _ hargs => Q.traced_bind (keysBy_related hargs caller) fun _ => Q.refl _
  simp only [arrays, List.mem_cons, List.not_mem_nil, or_false] at h
  rcases h with rfl | rfl | rfl | rfl | rfl | rfl | rfl | rfl | rfl | rfl <;> dsimp only
  · exact map_related
  · exact hextreme _ _
  · exact hextremeBy _ _
  · exact hextreme _ _
  · exact hextremeBy _ _
  · exact plain_related fun _ _ hargs => firstNotNull_related hargs
  · exact asJson_related
  · exact plain_related fun _ _ hargs => by rw [ownKeys_related hargs]
  · exact fun _ _ hargs => Q.traced_bind (keysBy_related hargs "sort_by") fun _ => Q.refl _
  · exact asJson_related

theorem objects_related {fn : Function} (h : fn ∈ objects) : Body.Related Q fn.body fn.body := by
  simp only [objects, List.mem_cons, List.not_mem_nil, or_false] at h
  rcases h with rfl | rfl | rfl <;> dsimp only
  · exact asObject_related
  · exact merge_related
  · exact asObject_related

theorem payloads_related {reasons : Reasons} {fn : Function} (h : fn ∈ payloads reasons) :
    Body.Related Q fn.body fn.body := by
  simp only [payloads, List.mem_cons, List.not_mem_nil, or_false] at h
  rcases h with rfl | rfl | rfl <;> dsimp only
  · exact asJson_related
  · exact asString_related
  · exact asString_related

/-- A built-in function has related results on related arguments. -/
theorem functions_related (reasons : Reasons) (extensions : Bool) {name : String} {fn : Function}
    (h : (functions reasons extensions).find? name = some fn) : Body.Related Q fn.body fn.body := by
  obtain ⟨hmem, _⟩ := Registry.find?_ofList h
  simp only [List.mem_append, List.mem_ite_nil_right] at hmem
  rcases hmem with (((hmem | hmem) | hmem) | hmem) | ⟨_, hmem⟩
  · exact math_related hmem
  · exact strings_related hmem
  · exact arrays_related hmem
  · exact objects_related hmem
  · exact payloads_related hmem

/-- Every built-in function looks at references through their results only. -/
theorem functions_respects (reasons : Reasons) (extensions : Bool) : (functions reasons extensions).Respects :=
  fun _ _ h => Body.respects_iff.2 (functions_related reasons extensions h)

end Library

end JsonQuery
