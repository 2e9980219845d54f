import JsonQuery.Engine
import JsonQuery.Proofs.Eval.Result
import JsonQuery.Proofs.Registry

/-!
# How built-in functions fail

* `ArgumentFault`, `PayloadFault` — the ways in which a built-in function can fail.
* `Supplies` — how it fails when it takes one of the first arguments; `Arity.least` says how many it takes.
* `failure_of_find?` — a function that is found by name fails in these ways only, in the second only
  if payload functions are known.
-/

namespace JsonQuery

variable {α : Type} {H : Failure → Prop}

/-! ## Arguments -/

/-- The failures that come with the arguments of a function: one is of another type than wanted, or
the evaluation of a reference among them fails. -/
inductive ArgumentFault (args : List Argument) : Failure → Prop
  | type (fault : TypeFault) : ArgumentFault args (.type fault)
  | reference {body run v f} : .reference body run ∈ args → (run v).result = .error f →
      ArgumentFault args f

/-- The failures of what is to be unwrapped. -/
inductive PayloadFault : Failure → Prop
  | base64 (reason : String) : PayloadFault (.badBase64 reason)
  | json (reason : String) : PayloadFault (.badJson reason)
  | archive (reason : String) : PayloadFault (.badArchive reason)

/-- The least number of arguments that a function takes. -/
def Arity.least : Arity → Nat
  | fixed n => n
  | variadic n => n

theorem Arity.least_le {a : Arity} {count : Nat} (h : a.accepts count = true) : a.least ≤ count := by
  cases a with
  | fixed n => exact Nat.le_of_eq (of_decide_eq_true h).symm
  | variadic n => exact of_decide_eq_true h

namespace Library

/-- Taking one of the first `n` arguments fails in these ways only. -/
def Supplies (H : Failure → Prop) (args : List Argument) (n : Nat) : Prop :=
  ∀ i < n, FailsBy H (Argument.nth args i)

theorem supplies_of_missing (h : H (.type .missingArgument)) (args : List Argument) (n : Nat) :
    Supplies H args n := by
  intro i _
  unfold Argument.nth
  split
  · exact .ok _
  · exact .error h

theorem supplies_argumentFault (args : List Argument) (n : Nat) :
    Supplies (ArgumentFault args) args n :=
  supplies_of_missing (.type .missingArgument) args n

/-- The arguments that are there are taken without a failure. -/
theorem supplies_of_le {args : List Argument} {n : Nat} (h : n ≤ args.length) : Supplies H args n := by
  intro i hi
  rw [Argument.nth, List.getElem?_eq_getElem (Nat.lt_of_lt_of_le hi h)]
  exact .ok _

section Plain

variable (htype : ∀ fault, fault ≠ .missingArgument → H (.type fault))
include htype

theorem asJson_failsBy (a : Argument) : FailsBy H a.asJson := by
  unfold Argument.asJson
  split
  · exact .ok _
  · exact .error (htype _ nofun)

theorem asReference_failsBy (a : Argument) : FailsBy H a.asReference := by
  unfold Argument.asReference
  split
  · exact .ok _
  · exact .error (htype _ nofun)

theorem asArray_failsBy (a : Argument) : FailsBy H a.asArray := by
  unfold Argument.asArray
  split
  · exact .ok _
  · exact .error (htype _ nofun)

theorem asObject_failsBy (a : Argument) : FailsBy H a.asObject := by
  unfold Argument.asObject
  split
  · exact .ok _
  · exact .error (htype _ nofun)

theorem asString_failsBy (a : Argument) : FailsBy H a.asString := by
  unfold Argument.asString
  split
  · exact .ok _
  · exact .error (htype _ nofun)

theorem asNumber_failsBy (a : Argument) : FailsBy H a.asNumber := by
  unfold Argument.asNumber
  split
  · exact .ok _
  · exact .error (htype _ nofun)

variable {args : List Argument}

/-! ## Numbers, strings and objects -/

theorem numbers_failsBy (caller : String) (items : List Json) :
    FailsBy H (numbers caller items) := by
  unfold numbers
  split
  · exact .error (htype _ nofun)
  · refine .mapM (fun v => ?_) items
    split
    · exact .ok _
    · exact .error (htype _ nofun)

theorem math_failsBy {fn : Function} (h : fn ∈ math) (hargs : Supplies H args fn.arity.least) :
    FailsBy H (fn.body args).result := by
  have hnumber : ∀ f, Supplies H args 1 → FailsBy H (ofNumber f args).result := fun f hargs =>
    .ofExcept ((hargs 0 (by decide)).bind fun a _ =>
      (asNumber_failsBy htype a).bind fun n _ => .ok _)
  have hnumbers : ∀ caller f, Supplies H args 1 → FailsBy H (ofNumbers caller f args).result :=
    fun caller f hargs => .ofExcept ((hargs 0 (by decide)).bind fun a _ =>
      (asArray_failsBy htype a).bind fun items _ =>
        (numbers_failsBy htype caller items).bind fun ns _ => .ok _)
  simp only [math, List.mem_cons, List.not_mem_nil, or_false] at h
  rcases h with rfl | rfl | rfl | rfl | rfl
  · exact hnumber _ hargs
  · exact hnumbers _ _ hargs
  · exact hnumber _ hargs
  · exact hnumber _ hargs
  · exact hnumbers _ _ hargs

theorem contains_failsBy (hargs : Supplies H args 2) : FailsBy H (contains args).result := by
  refine .ofExcept ((hargs 0 (by decide)).bind fun a _ => (asJson_failsBy htype a).bind ?_)
  intro v _
  split
  · exact (hargs 1 (by decide)).bind fun a _ => (asJson_failsBy htype a).bind fun w _ => .ok _
  · exact (hargs 1 (by decide)).bind fun a _ => (asString_failsBy htype a).bind fun s _ => .ok _
  · exact .error (htype _ nofun)

theorem ofTwoStrings_failsBy (test : List Char → List Char → Bool) (hargs : Supplies H args 2) :
    FailsBy H (ofTwoStrings test args).result :=
  .ofExcept ((hargs 0 (by decide)).bind fun a _ => (asString_failsBy htype a).bind fun _ _ =>
    (hargs 1 (by decide)).bind fun b _ => (asString_failsBy htype b).bind fun _ _ => .ok _)

theorem join_failsBy (hargs : Supplies H args 2) : FailsBy H (join args).result := by
  refine .ofExcept ((hargs 0 (by decide)).bind fun a _ => (asString_failsBy htype a).bind fun s _ =>
    (hargs 1 (by decide)).bind fun b _ => (asArray_failsBy htype b).bind fun items _ => ?_)
  refine (FailsBy.mapM (fun v => ?_) items).bind fun parts _ => .ok _
  split
  · exact .ok _
  · exact .error (htype _ nofun)

theorem length_failsBy (hargs : Supplies H args 1) : FailsBy H (length args).result := by
  refine .ofExcept ((hargs 0 (by decide)).bind fun a _ => (asJson_failsBy htype a).bind ?_)
  intro v _
  split
  · exact .ok _
  · exact .ok _
  · exact .ok _
  · exact .error (htype _ nofun)

theorem toText_failsBy (hargs : Supplies H args 1) : FailsBy H (toText args).result := by
  refine .ofExcept ((hargs 0 (by decide)).bind fun a _ => (asJson_failsBy htype a).bind ?_)
  intro v _
  split <;> exact .ok _

theorem toNumber_failsBy (hargs : Supplies H args 1) : FailsBy H (toNumber args).result := by
  refine .ofExcept ((hargs 0 (by decide)).bind fun a _ => (asJson_failsBy htype a).bind ?_)
  intro v _
  split
  · exact .ok _
  · split
    · exact .ok _
    · exact .error (htype _ nofun)
  · exact .error (htype _ nofun)

theorem typeName_failsBy (hargs : Supplies H args 1) : FailsBy H (typeName args).result := by
  refine .ofExcept ((hargs 0 (by decide)).bind fun a _ => ?_)
  split
  · exact .ok _
  · exact .error (htype _ nofun)

theorem strings_failsBy {fn : Function} (h : fn ∈ strings) (hargs : Supplies H args fn.arity.least) :
    FailsBy H (fn.body args).result := by
  simp only [strings, List.mem_cons, List.not_mem_nil, or_false] at h
  rcases h with rfl | rfl | rfl | rfl | rfl | rfl | rfl | rfl <;> dsimp only
  · exact contains_failsBy htype hargs
  · exact ofTwoStrings_failsBy htype _ hargs
  · exact join_failsBy htype hargs
  · exact length_failsBy htype hargs
  · exact ofTwoStrings_failsBy htype _ hargs
  · exact toNumber_failsBy htype hargs
  · exact toText_failsBy htype hargs
  · exact typeName_failsBy htype hargs

theorem objects_failsBy {fn : Function} (h : fn ∈ objects) (hargs : Supplies H args fn.arity.least) :
    FailsBy H (fn.body args).result := by
  simp only [objects, List.mem_cons, List.not_mem_nil, or_false] at h
  rcases h with rfl | rfl | rfl
  · exact .ofExcept ((hargs 0 Nat.zero_lt_one).bind fun a _ =>
      (asObject_failsBy htype a).bind fun members _ => .ok _)
  · exact .ofExcept ((FailsBy.mapM (asObject_failsBy htype) args).bind fun objects _ => .ok _)
  · exact .ofExcept ((hargs 0 Nat.zero_lt_one).bind fun a _ =>
      (asObject_failsBy htype a).bind fun members _ => .ok _)

/-! ## Arrays -/

theorem comparable_failsBy (caller : String) (items : List Json) :
    FailsBy H (comparable caller items) := by
  unfold comparable
  split
  · exact .ok _
  · split
    · exact .ok _
    · exact .error (htype _ nofun)

theorem ownKeys_failsBy (caller : String) (hargs : Supplies H args 1) :
    FailsBy H (ownKeys caller args) :=
  (hargs 0 (by decide)).bind fun a _ => (asArray_failsBy htype a).bind fun items _ =>
    (comparable_failsBy htype caller items).bind fun _ _ => .ok _

theorem firstNotNull_failsBy (args : List Argument) : FailsBy H (firstNotNull args) := by
  induction args with
  | nil => exact .ok _
  | cons a rest ih =>
    refine (asJson_failsBy htype a).bind fun v _ => ?_
    split
    · exact ih
    · exact .ok _

theorem reverse_failsBy (hargs : Supplies H args 1) : FailsBy H (reverse args).result := by
  refine .ofExcept ((hargs 0 (by decide)).bind fun a _ => (asJson_failsBy htype a).bind ?_)
  intro v _
  split
  · exact .ok _
  · exact .ok _
  · exact .error (htype _ nofun)

theorem toArray_failsBy (hargs : Supplies H args 1) : FailsBy H (toArray args).result := by
  refine .ofExcept ((hargs 0 (by decide)).bind fun a _ => (asJson_failsBy htype a).bind ?_)
  intro v _
  split <;> exact .ok _

/-! ## Payloads -/

section Payload

variable {reasons : Reasons} (hpayload : ∀ f, PayloadFault f → H f)
include hpayload

omit htype in
theorem readJson_failsBy (text : String) : FailsBy H (readJson reasons text) := by
  unfold readJson
  split
  · exact .ok _
  · exact .error (hpayload _ (.json _))

omit htype in
theorem readBase64_failsBy (text : String) : FailsBy H (readBase64 reasons text) := by
  unfold readBase64
  split
  · exact .ok _
  · exact .error (hpayload _ (.base64 _))

omit htype in
theorem readUtf8_failsBy {fault : List UInt8 → Failure} (hfault : ∀ bytes, PayloadFault (fault bytes))
    (bytes : List UInt8) : FailsBy H (readUtf8 fault bytes) := by
  unfold readUtf8
  split
  · exact .ok _
  · exact .error (hpayload _ (hfault bytes))

omit htype in
theorem unzip_failsBy (bytes : List UInt8) : FailsBy H (unzip reasons bytes) := by
  unfold unzip
  split
  · exact .ok _
  · exact .error (hpayload _ (.archive _))

theorem payloads_failsBy {fn : Function} (h : fn ∈ payloads reasons) (hargs : Supplies H args fn.arity.least) :
    FailsBy H (fn.body args).result := by
  simp only [payloads, List.mem_cons, List.not_mem_nil, or_false] at h
  rcases h with rfl | rfl | rfl <;> dsimp only
  · refine .ofExcept ((hargs 0 Nat.zero_lt_one).bind fun a _ => (asJson_failsBy htype a).bind ?_)
    intro v _
    split
    · exact readJson_failsBy hpayload _
    · exact .ok _
  · exact .ofExcept ((hargs 0 Nat.zero_lt_one).bind fun a _ => (asString_failsBy htype a).bind fun text _ =>
      (readBase64_failsBy hpayload text).bind fun bytes _ =>
        (readUtf8_failsBy hpayload (fun _ => .json _) bytes).bind fun content _ => readJson_failsBy hpayload content)
  · exact .ofExcept ((hargs 0 Nat.zero_lt_one).bind fun a _ => (asString_failsBy htype a).bind fun text _ =>
      (readBase64_failsBy hpayload text).bind fun packed _ =>
        (unzip_failsBy hpayload packed).bind fun bytes _ =>
          (readUtf8_failsBy hpayload (fun _ => .archive _) bytes).bind fun content _ =>
            readJson_failsBy hpayload content)

end Payload

end Plain

/-! ## References -/

theorem mapItems_failsBy {run : Json → Traced Json} (hrun : ∀ v, FailsBy H (run v).result)
    (items : List Json) : FailsBy H (mapItems run items).result := by
  induction items with
  | nil => exact .ok _
  | cons v rest ih => exact (hrun v).traced_bind fun w _ => ih.traced_bind fun ws _ => .ok _

variable {args : List Argument}

theorem mem_of_nth {i : Nat} {a : Argument} (h : Argument.nth args i = .ok a) : a ∈ args := by
  unfold Argument.nth at h
  split at h
  · rename_i b hb
    cases h
    exact List.mem_of_getElem? hb
  · cases h

theorem eq_of_asReference {a : Argument} {body : Expr} {run : Json → Traced Json}
    (h : a.asReference = .ok (body, run)) : a = .reference body run := by
  unfold Argument.asReference at h
  split at h
  · cases h
    rfl
  · cases h

/-- A reference that is taken from the arguments fails as one of them. -/
theorem reference_failsBy {i : Nat} {p : Expr × (Json → Traced Json)}
    (h : (Argument.nth args i >>= Argument.asReference) = .ok p) (v : Json) :
    FailsBy (ArgumentFault args) (p.2 v).result := by
  cases ha : Argument.nth args i with
  | error f =>
    rw [ha] at h
    cases h
  | ok a =>
    rw [ha] at h
    have hmem := mem_of_nth ha
    rw [eq_of_asReference (show a.asReference = .ok (p.1, p.2) from h)] at hmem
    exact fun f hf => .reference hmem hf

theorem keysBy_failsBy (caller : String) :
    FailsBy (ArgumentFault args) (keysBy caller args).result := by
  have htype : ∀ fault, fault ≠ .missingArgument → ArgumentFault args (.type fault) :=
    fun fault _ => .type fault
  have hargs := supplies_argumentFault args 2
  refine .traced_bind (.ofExcept ((hargs 0 (by decide)).bind fun a _ =>
    asArray_failsBy htype a)) ?_
  intro items _
  refine .traced_bind (.ofExcept ((hargs 1 (by decide)).bind fun a _ =>
    asReference_failsBy htype a)) ?_
  intro p hp
  have hrun := reference_failsBy ((Traced.result_ofExcept _).symm.trans hp)
  refine .traced_bind (mapItems_failsBy hrun items) ?_
  intro keys _
  exact .traced_bind (.ofExcept (comparable_failsBy htype caller keys))
    fun _ _ => .ok _

theorem map_failsBy : FailsBy (ArgumentFault args) (map args).result := by
  have htype : ∀ fault, fault ≠ .missingArgument → ArgumentFault args (.type fault) :=
    fun fault _ => .type fault
  have hargs := supplies_argumentFault args 2
  refine .traced_bind (.ofExcept ((hargs 0 (by decide)).bind fun a _ =>
    asReference_failsBy htype a)) ?_
  intro p hp
  refine .traced_bind (.ofExcept ((hargs 1 (by decide)).bind fun a _ =>
    asArray_failsBy htype a)) ?_
  intro items _
  have hrun := reference_failsBy ((Traced.result_ofExcept _).symm.trans hp)
  exact .traced_bind (mapItems_failsBy hrun items) fun _ _ => .ok _

theorem arrays_failsBy {fn : Function} (h : fn ∈ arrays) (args : List Argument) :
    FailsBy (ArgumentFault args) (fn.body args).result := by
  have htype : ∀ fault, fault ≠ .missingArgument → ArgumentFault args (.type fault) :=
    fun fault _ => .type fault
  have hargs := supplies_argumentFault args 1
  have hextreme : ∀ caller wanted, FailsBy (ArgumentFault args) (extreme caller wanted args).result :=
    fun caller wanted => .ofExcept ((ownKeys_failsBy htype caller hargs).bind fun _ _ => .ok _)
  have hextremeBy : ∀ caller wanted,
      FailsBy (ArgumentFault args) (extremeBy caller wanted args).result :=
    fun caller wanted => .traced_bind (keysBy_failsBy caller) fun _ _ => .ok _
  simp only [arrays, List.mem_cons, List.not_mem_nil, or_false] at h
  rcases h with rfl | rfl | rfl | rfl | rfl | rfl | rfl | rfl | rfl | rfl <;> dsimp only
  · exact map_failsBy
  · exact hextreme _ _
  · exact hextremeBy _ _
  · exact hextreme _ _
  · exact hextremeBy _ _
  · exact .ofExcept (firstNotNull_failsBy htype args)
  · exact reverse_failsBy htype hargs
  · exact .ofExcept ((ownKeys_failsBy htype "sort" hargs).bind fun _ _ => .ok _)
  · exact .traced_bind (keysBy_failsBy "sort_by") fun _ _ => .ok _
  · exact toArray_failsBy htype hargs

/-! ## Functions by name -/

variable {reasons : Reasons} {extensions : Bool} {name : String} {fn : Function}

/-- How a function that is found by name fails: with its arguments, or, if payload functions are
known and it is one of them, by what is to be unwrapped. -/
theorem failure_of_find? (h : (functions reasons extensions).find? name = some fn) {f : Failure}
    (hf : (fn.body args).result = .error f) :
    ArgumentFault args f ∨ (extensions = true ∧ fn ∈ payloads reasons ∧ name ∈ fn.name :: fn.aliases ∧
      PayloadFault f) := by
  obtain ⟨hmem, hname⟩ := Registry.find?_ofList h
  have htype : ∀ fault, fault ≠ .missingArgument → ArgumentFault args (.type fault) :=
    fun fault _ => .type fault
  have hargs := supplies_argumentFault args fn.arity.least
  simp only [List.mem_append, List.mem_ite_nil_right] at hmem
  rcases hmem with (((hmem | hmem) | hmem) | hmem) | ⟨hextensions, hmem⟩
  · exact .inl (math_failsBy htype hmem hargs f hf)
  · exact .inl (strings_failsBy htype hmem hargs f hf)
  · exact .inl (arrays_failsBy hmem args f hf)
  · exact .inl (objects_failsBy htype hmem hargs f hf)
  · have hunwrap : FailsBy (fun f => ArgumentFault args f ∨ PayloadFault f) (fn.body args).result :=
      payloads_failsBy (fun fault hfault => .inl (htype fault hfault)) (fun _ => .inr) hmem
        (supplies_of_missing (.inl (.type .missingArgument)) args _)
    exact (hunwrap f hf).imp_right fun hfault => ⟨hextensions, hmem, hname, hfault⟩

end JsonQuery.Library
