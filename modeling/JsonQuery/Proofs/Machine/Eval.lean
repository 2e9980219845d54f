import JsonQuery.Proofs.Expr.Node
import JsonQuery.Proofs.Library.Failures
import JsonQuery.Proofs.Machine.Arrays
import JsonQuery.Proofs.Machine.Slices

/-!
# No evaluation traps

* `Machine.eval` — the value of an expression on a machine, where each function body takes its arguments by
  their places, and places of lists are worked out in words.
* `Machine.body_eq` — a built-in function that is called with a right number of arguments does not trap.
* `Machine.eval_never_traps` — no evaluation traps, whatever the expression.
-/

namespace JsonQuery.Machine

open Trapping

variable {α : Type}

/-! ## Definitions -/

/-- A body of the library; it traps where it takes an argument behind the last one. -/
def guarded (x : Traced α) : Trapping α :=
  match x.result with
  | .error (.type .missingArgument) => .trap
  | _ => .ran x

/-- What a built-in function does. -/
def body (fn : Function) : Body :=
  (byPlace.lookup fn.name).getD fun args => guarded (fn.body (args.map Argument.seen))

/-- Calls the function of a name; a soft failure of its body becomes null. -/
def call (r : Registry) (name : String) (count : Nat) (args : Trapping (List Argument)) :
    Trapping Json :=
  match r.find? name with
  | none => .ran (.fail (.unknownFunction name))
  | some fn =>
    if fn.arity.accepts count then
      args >>= fun values => (body fn values).absorb .null (.absorbed name)
    else .ran (.fail (.arity (fn.arity.mismatch name count)))

/-- What is done with a list, `run`.  No machine holds 2^63 items; there it is taken to be `x`. -/
def onList (items : List Json) (run : Trapping α) (x : Traced α) : Trapping α :=
  if items.length < 2 ^ 63 then run else .ran x

/-- The item of an array at a place. -/
def index (place : Int64) (items : List Json) : Trapping Json :=
  onList items
    (do
      let item ← item? items place
      pure (item.getD .null))
    (pure ((Eval.item? items place).getD .null))

/-- The elements that a projection takes from a value. -/
def select (kind : Projection) (v : Json) : Trapping (Option (List Json)) :=
  match kind, v with
  | .slice s, .array items =>
    onList items
      (do
        let selected ← slice s items
        pure (some selected))
      (.ofExcept (Projection.select (.slice s) (.array items)))
  | kind, v => .ofExcept (kind.select v)

/-- The values of `f` on the elements that are not null, without those that are null. -/
def collect (f : Json → Trapping Json) : List Json → Trapping (List Json)
  | [] => pure []
  | v :: rest =>
    if v.isNull then collect f rest
    else do
      let w ← f v
      let ws ← collect f rest
      pure (if w.isNull then ws else w :: ws)

/-- The elements that are not null and for which `test` gives a true value. -/
def keep (test : Json → Trapping Json) : List Json → Trapping (List Json)
  | [] => pure []
  | v :: rest =>
    if v.isNull then keep test rest
    else do
      let b ← test v
      let vs ← keep test rest
      pure (if b.isTruthy then v :: vs else vs)

mutual

/-- The value of an expression on the current value. -/
def eval (r : Registry) : Expr → Json → Trapping Json
  | .current, v => pure v
  | .identifier name, v => pure (Eval.member name v)
  | .index place, .array items => index place items
  | .index _, _ => pure .null
  | .literal value, _ => pure value
  | .subexpr lhs rhs, v => eval r lhs v >>= eval r rhs
  | .pipe lhs rhs, v => eval r lhs v >>= eval r rhs
  | .project kind lhs rhs, v => do
    let left ← eval r lhs v
    match ← select kind left with
    | none => pure .null
    | some elements => return .array (← collect (eval r rhs) elements)
  | .filter predicate lhs rhs, v => do
    match ← eval r lhs v with
    | .array items =>
      let kept ← keep (eval r predicate) items
      return .array (← collect (eval r rhs) kept)
    | _ => pure .null
  | .multiList items, v =>
    if v.isNull then pure .null else do return .array (← evalItems r items v)
  | .multiHash pairs, v =>
    if v.isNull then pure .null else do return .ofMembers (← evalPairs r pairs v)
  | .call name args, v => call r name args.length (evalArguments r args v)
  | .reference _, _ => .ran (.fail .strayReference)
  | .binary .or lhs rhs, v => do
    let left ← eval r lhs v
    if left.isTruthy then pure left else eval r rhs v
  | .binary .and lhs rhs, v => do
    let left ← eval r lhs v
    if left.isTruthy then eval r rhs v else pure left
  | .binary op lhs rhs, v => do
    let left ← eval r lhs v
    let right ← eval r rhs v
    return op.apply left right
  | .not operand, v => do return .bool !(← eval r operand v).isTruthy
  | .resembles pattern operand, v => do
    match ← eval r operand v with
    | .string s => return .bool (pattern.isMatch s)
    | other => .ran (.fail (.type (.expects "regex match" "a string" other.kind)))

/-- The values of a list of expressions. -/
def evalItems (r : Registry) : List Expr → Json → Trapping (List Json)
  | [], _ => pure []
  | e :: rest, v => do
    let x ← eval r e v
    let xs ← evalItems r rest v
    return x :: xs

/-- The values of named expressions. -/
def evalPairs (r : Registry) : List (String × Expr) → Json → Trapping Json.Members
  | [], _ => pure []
  | (key, e) :: rest, v => do
    let x ← eval r e v
    let xs ← evalPairs r rest v
    return (key, x) :: xs

/-- The arguments of a call; a reference is handed over unevaluated. -/
def evalArguments (r : Registry) : List Expr → Json → Trapping (List Argument)
  | [], _ => pure []
  | .reference body :: rest, v => do
    let xs ← evalArguments r rest v
    return .reference body (eval r body) :: xs
  | e :: rest, v => do
    let x ← eval r e v
    let xs ← evalArguments r rest v
    return .value x :: xs

end

/-! ## Functions -/

theorem guarded_eq {x : Traced α} (h : FailsBy (· ≠ .type .missingArgument) x.result) :
    guarded x = .ran x := by
  unfold guarded
  split
  · rename_i hresult
    exact absurd rfl (h _ hresult)
  · rfl

/-- A built-in function that takes no items by their places does not miss an argument. -/
theorem plain_failsBy {reasons : Reasons} {extensions : Bool} {name : String} {fn : Function}
    (h : (Library.functions reasons extensions).find? name = some fn) (hplain : byPlace.lookup fn.name = none)
    {args : List JsonQuery.Argument} (haccepts : fn.arity.accepts args.length = true) :
    FailsBy (· ≠ .type .missingArgument) (fn.body args).result := by
  have htype : ∀ fault, fault ≠ .missingArgument →
      Failure.type fault ≠ .type .missingArgument := fun fault hfault h => hfault (by injection h)
  have hargs := Library.supplies_of_le (H := (· ≠ .type .missingArgument)) (Arity.least_le haccepts)
  obtain ⟨hmem, -⟩ := Registry.find?_ofList h
  simp only [List.mem_append, List.mem_ite_nil_right] at hmem
  rcases hmem with (((hmem | hmem) | hmem) | hmem) | ⟨-, hmem⟩
  · exact Library.math_failsBy htype hmem hargs
  · exact Library.strings_failsBy htype hmem hargs
  · simp only [Library.arrays, List.mem_cons, List.not_mem_nil, or_false] at hmem
    rcases hmem with rfl | rfl | rfl | rfl | rfl | rfl | rfl | rfl | rfl | rfl <;> try cases hplain
    · exact .ofExcept (Library.firstNotNull_failsBy htype args)
    · exact Library.reverse_failsBy htype hargs
    · exact .ofExcept ((Library.ownKeys_failsBy htype "sort" hargs).bind fun _ _ => .ok _)
    · exact Library.toArray_failsBy htype hargs
  · exact Library.objects_failsBy htype hmem hargs
  · exact Library.payloads_failsBy htype (fun f hf h => by cases hf <;> cases h) hmem hargs

/-- No function outside of `Library.arrays` takes items by their places. -/
theorem mem_arrays_of_byPlace {reasons : Reasons} {extensions : Bool} {name : String} {fn : Function} {b : Body}
    (h : (Library.functions reasons extensions).find? name = some fn)
    (hbody : byPlace.lookup fn.name = some b) : fn ∈ Library.arrays := by
  have hnames : ∀ name ∈ (Library.math ++ Library.strings ++ Library.objects ++ Library.payloads reasons).map
      Function.name, (byPlace.lookup name).isNone = true := by
    change ∀ name ∈ (Library.math ++ Library.strings ++ Library.objects ++ Library.payloads .plain).map
      Function.name, (byPlace.lookup name).isNone = true
    decide
  obtain ⟨hmem, -⟩ := Registry.find?_ofList h
  refine Classical.byContradiction fun harrays => ?_
  have hnone := hnames fn.name (List.mem_map_of_mem (by
    simp only [List.mem_append, List.mem_ite_nil_right] at hmem ⊢
    tauto))
  rw [hbody] at hnone
  cases hnone

/-- A built-in function that is called with a right number of arguments does not trap. -/
theorem body_eq {reasons : Reasons} {extensions : Bool} {name : String} {fn : Function}
    (h : (Library.functions reasons extensions).find? name = some fn) {args : List JsonQuery.Argument}
    (haccepts : fn.arity.accepts args.length = true) :
    body fn (args.map .of) = .ran (fn.body args) := by
  unfold body
  cases hbody : byPlace.lookup fn.name with
  | some b => exact byPlace_eq (mem_arrays_of_byPlace h hbody) hbody haccepts
  | none =>
    have hseen : (args.map .of).map Argument.seen = args := by
      rw [List.map_map]
      exact List.map_id'' Argument.seen_of args
    rw [Option.getD_none, hseen]
    exact guarded_eq (plain_failsBy h hbody haccepts)

/-- With too few arguments it would: only the check of their number keeps a body from this. -/
example : body ⟨"length", [], .fixed 1, Library.length⟩ [] = .trap := by rfl

/-! ## Lists and projections -/

theorem onList_eq {items : List Json} {run : Trapping α} {x : Traced α}
    (h : items.length < 2 ^ 63 → run = .ran x) : onList items run x = .ran x := by
  unfold onList
  split
  · exact h ‹_›
  · rfl

theorem index_eq (place : Int64) (items : List Json) :
    index place items = .ran (pure ((Eval.item? items place).getD .null)) :=
  onList_eq fun h => by
    rw [item_eq h, pure_bind]
    rfl

theorem select_eq (kind : Projection) (v : Json) :
    select kind v = .ran (.ofExcept (kind.select v)) := by
  unfold select
  split
  · rename_i s items
    refine onList_eq fun h => ?_
    rw [slice_eq h, Projection.select]
    cases s.select? items <;> rfl
  · rfl

section Loops

variable {run : Json → Trapping Json} {f : Json → Traced Json} (hrun : ∀ v, run v = .ran (f v))
include hrun

theorem collect_eq (items : List Json) : collect run items = .ran (Eval.collect f items) := by
  induction items with
  | nil => rfl
  | cons v rest ih =>
    rw [collect, Eval.collect]
    split
    · exact ih
    · rw [hrun, ih]
      exact ran_bind fun _ _ => ran_bind fun _ _ => rfl

theorem keep_eq (items : List Json) : keep run items = .ran (Eval.keep f items) := by
  induction items with
  | nil => rfl
  | cons v rest ih =>
    rw [keep, Eval.keep]
    split
    · exact ih
    · rw [hrun, ih]
      exact ran_bind fun _ _ => ran_bind fun _ _ => rfl

end Loops

/-! ## Nodes -/

variable {r : Registry} {e : Expr}

/-- An expression does not trap, and neither does the body of a reference. -/
structure Safe (r : Registry) (e : Expr) : Prop where
  eval : ∀ v, eval r e v = .ran (e.eval r v)
  body : ∀ b, e = .reference b → ∀ v, Machine.eval r b v = .ran (b.eval r v)

theorem evalItems_eq {es : List Expr} (h : ∀ e ∈ es, Safe r e) (v : Json) :
    evalItems r es v = .ran (Expr.evalItems r es v) := by
  induction es with
  | nil => rfl
  | cons e rest ih =>
    rw [evalItems, Expr.evalItems, (h e List.mem_cons_self).eval,
      ih fun e he => h e (List.mem_cons_of_mem _ he)]
    exact ran_bind fun _ _ => ran_bind fun _ _ => rfl

theorem evalPairs_eq {ps : List (String × Expr)} (h : ∀ p ∈ ps, Safe r p.2) (v : Json) :
    evalPairs r ps v = .ran (Expr.evalPairs r ps v) := by
  induction ps with
  | nil => rfl
  | cons p rest ih =>
    obtain ⟨key, e⟩ := p
    rw [evalPairs, Expr.evalPairs, (h _ List.mem_cons_self).eval,
      ih fun p hp => h p (List.mem_cons_of_mem _ hp)]
    exact ran_bind fun _ _ => ran_bind fun _ _ => rfl

/-- What is done on a machine with the arguments of a call, one after another. -/
theorem evalArguments_cons (e : Expr) (rest : List Expr) (v : Json) :
    (∃ b, e = .reference b ∧ evalArguments r (e :: rest) v =
      evalArguments r rest v >>= fun xs => pure (.reference b (Machine.eval r b) :: xs)) ∨
    ((∀ b, e ≠ .reference b) ∧ evalArguments r (e :: rest) v =
      Machine.eval r e v >>= fun x => evalArguments r rest v >>= fun xs => pure (.value x :: xs)) := by
  cases e with
  | reference b => exact .inl ⟨b, rfl, by rw [evalArguments]⟩
  | _ => exact .inr ⟨nofun, by rw [evalArguments]; nofun⟩

/-- The arguments of a call are evaluated without a trap. -/
theorem evalArguments_eq {es : List Expr} (h : ∀ e ∈ es, Safe r e) (v : Json) :
    evalArguments r es v =
      .ran (Expr.evalArguments r es v) >>= fun xs => pure (xs.map Argument.of) := by
  induction es with
  | nil => rfl
  | cons e rest ih =>
    have hrest := ih fun e he => h e (List.mem_cons_of_mem _ he)
    have he := h e List.mem_cons_self
    rcases evalArguments_cons (r := r) e rest v with ⟨b, rfl, heq⟩ | ⟨hplain, heq⟩
    · have hbody : Machine.eval r b = fun v => .ran (b.eval r v) := funext (he.body b rfl)
      rw [heq, hrest, hbody, Expr.evalArguments, ← ran_seq, bind_assoc, bind_assoc]
      rfl
    · rcases Expr.evalArguments_cons (r := r) e rest v with ⟨b, hb, _⟩ | ⟨_, hmodel⟩
      · exact absurd hb (hplain b)
      · rw [heq, hrest, hmodel, he.eval, ← ran_seq, bind_assoc]
        refine bind_congr fun x => ?_
        rw [← ran_seq, bind_assoc, bind_assoc]
        rfl

theorem length_of_evalArguments {es : List Expr} {v : Json} {values : List JsonQuery.Argument}
    (h : (Expr.evalArguments r es v).result = .ok values) : values.length = es.length := by
  induction es generalizing values with
  | nil =>
    cases h
    rfl
  | cons e rest ih =>
    rcases Expr.evalArguments_cons (r := r) e rest v with ⟨b, _, heq⟩ | ⟨_, heq⟩
    · rw [heq] at h
      obtain ⟨xs, hxs, h⟩ := Traced.result_bind_ok.1 h
      cases h
      rw [List.length_cons, List.length_cons, ih hxs]
    · rw [heq] at h
      obtain ⟨x, _, h⟩ := Traced.result_bind_ok.1 h
      obtain ⟨xs, hxs, h⟩ := Traced.result_bind_ok.1 h
      cases h
      rw [List.length_cons, List.length_cons, ih hxs]

/-- A call does not trap. -/
theorem call_eq (reasons : Reasons) (extensions : Bool) (name : String) {es : List Expr} {v : Json}
    (h : ∀ e ∈ es, Safe (Library.functions reasons extensions) e) :
    call (Library.functions reasons extensions) name es.length
        (evalArguments (Library.functions reasons extensions) es v) =
      .ran (Eval.call (Library.functions reasons extensions) name es.length
        (Expr.evalArguments (Library.functions reasons extensions) es v)) := by
  unfold call Eval.call
  cases hfind : (Library.functions reasons extensions).find? name with
  | none => rfl
  | some fn =>
    by_cases haccepts : fn.arity.accepts es.length = true
    · simp only [if_pos haccepts]
      rw [evalArguments_eq h, bind_assoc]
      refine ran_bind fun values hvalues => ?_
      rw [pure_bind, body_eq hfind (length_of_evalArguments hvalues ▸ haccepts)]
      rfl
    · simp only [if_neg haccepts]

section Children

variable {a b p : Expr} (ha : ∀ v, Machine.eval r a v = .ran (a.eval r v))
  (hb : ∀ v, Machine.eval r b v = .ran (b.eval r v))
include ha hb

theorem eval_project (kind : Projection) (v : Json) :
    Machine.eval r (.project kind a b) v = .ran (Expr.eval r (.project kind a b) v) := by
  rw [eval, Expr.eval, ha]
  refine ran_bind fun w _ => ?_
  rw [select_eq]
  refine ran_bind fun elements _ => ?_
  cases elements with
  | none => rfl
  | some elements =>
    dsimp only
    rw [collect_eq hb]
    exact ran_bind fun _ _ => rfl

theorem eval_filter (hp : ∀ v, Machine.eval r p v = .ran (p.eval r v)) (v : Json) :
    Machine.eval r (.filter p a b) v = .ran (Expr.eval r (.filter p a b) v) := by
  rw [eval, Expr.eval, ha]
  refine ran_bind fun w _ => ?_
  cases w with
  | array items =>
    dsimp only
    rw [keep_eq hp]
    refine ran_bind fun kept _ => ?_
    rw [collect_eq hb]
    exact ran_bind fun _ _ => rfl
  | _ => rfl

/-- `or` and `and` leave out their right operand where the left one decides; the others take both. -/
theorem eval_binary (op : BinaryOp) (v : Json) :
    Machine.eval r (.binary op a b) v = .ran (Expr.eval r (.binary op a b) v) := by
  cases op with
  | or =>
    rw [eval, Expr.eval, ha]
    refine ran_bind fun w _ => ?_
    split
    · rfl
    · exact hb v
  | and =>
    rw [eval, Expr.eval, ha]
    refine ran_bind fun w _ => ?_
    split
    · exact hb v
    · rfl
  | _ =>
    simp only [eval, Expr.eval, ha, hb]
    exact ran_bind fun _ _ => ran_bind fun _ _ => rfl

end Children

/-- **No evaluation traps.**  Whatever the expression, be it read from a text or not, and whatever the
value, the evaluation with the built-in functions ends with its result: no function takes an argument
behind the last one, no key and no item is taken from behind the end of its list, and no word
overflows on the way to a place of a list. -/
theorem eval_never_traps (reasons : Reasons) (extensions : Bool) (e : Expr) (v : Json) :
    eval (Library.functions reasons extensions) e v = .ran (e.eval (Library.functions reasons extensions) v) := by
  suffices h : Safe (Library.functions reasons extensions) e from h.eval v
  induction e using Expr.children_induction with
  | step e ih =>
    have hchild : ∀ c ∈ e.children, ∀ v, eval (Library.functions reasons extensions) c v =
        .ran (c.eval (Library.functions reasons extensions) v) := fun c hc => (ih c hc).eval
    refine ⟨fun v => ?_, fun b hb => ?_⟩
    · cases e with
      | current | identifier | literal | reference => rfl
      | index place =>
        cases v with
        | array items => exact index_eq place items
        | _ => rfl
      | subexpr a b | pipe a b =>
        rw [eval, Expr.eval, hchild a (by simp [Expr.children])]
        exact ran_bind fun w _ => hchild b (by simp [Expr.children]) w
      | project kind a b =>
        exact eval_project (hchild a (by simp [Expr.children]))
          (hchild b (by simp [Expr.children])) kind v
      | filter p a b =>
        exact eval_filter (hchild a (by simp [Expr.children]))
          (hchild b (by simp [Expr.children])) (hchild p (by simp [Expr.children])) v
      | multiList items =>
        rw [eval, Expr.eval]
        split
        · rfl
        · have hitems : ∀ c ∈ items, Safe (Library.functions reasons extensions) c := ih
          rw [evalItems_eq hitems]
          exact ran_bind fun _ _ => rfl
      | multiHash pairs =>
        rw [eval, Expr.eval]
        split
        · rfl
        · rw [evalPairs_eq fun p hp => ih p.2 (List.mem_map_of_mem hp)]
          exact ran_bind fun _ _ => rfl
      | call name args =>
        rw [eval, Expr.eval]
        exact call_eq reasons extensions name fun c hc => ih c hc
      | binary op a b =>
        exact eval_binary (hchild a (by simp [Expr.children]))
          (hchild b (by simp [Expr.children])) op v
      | not a =>
        rw [eval, Expr.eval, hchild a (by simp [Expr.children])]
        exact ran_bind fun _ _ => rfl
      | resembles regex a =>
        rw [eval, Expr.eval, hchild a (by simp [Expr.children])]
        refine ran_bind fun w _ => ?_
        cases w <;> rfl
    · subst hb
      exact (ih b (by simp [Expr.children])).eval

end JsonQuery.Machine
