import Mathlib
import JsonQuery.Proofs.Engine
import JsonQuery.Proofs.Library.Failures

/-!
# How an evaluation fails

* `Expr.HasStray` — somewhere below, a reference is not an argument of a call.
* `Expr.Raised` — the failures that the nodes of an expression can raise.
* `Expr.fails_of_eval` — an expression that passes the checks of the reader fails in these ways only.
* `failures_of_compile` — so does every query that an engine compiles, and a search without payload
  functions has a value.
-/

namespace JsonQuery

namespace Expr

/-- Somewhere below, a reference is not an argument of a call. -/
def HasStray (e : Expr) : Prop :=
  ∃ parent body, Within parent e ∧ .reference body ∈ parent.children ∧
    ∀ name args, parent ≠ .call name args

/-- The failures that the nodes of an expression can raise: a stray reference, a pattern that is
matched against a value other than a string, and payloads that cannot be unwrapped. -/
inductive Raised (reasons : Reasons) (r : Registry) (extensions : Bool) (e : Expr) : Failure → Prop
  | reference : e.HasStray → Raised reasons r extensions e .strayReference
  | pattern {regex operand w v} : Within (.resembles regex operand) e →
      (operand.eval r w).result = .ok v → (∀ s, v ≠ .string s) →
      Raised reasons r extensions e (.type (.expects "regex match" "a string" v.kind))
  | payload {name args w values fn f} : extensions = true → Within (.call name args) e →
      (evalArguments r args w).result = .ok values → fn ∈ Library.payloads reasons →
      name ∈ fn.name :: fn.aliases → (fn.body values).result = .error f → PayloadFault f →
      Raised reasons r extensions e f

/-- What a node raises is raised below the nodes above it. -/
theorem Raised.child {reasons : Reasons} {r : Registry} {extensions : Bool} {c e : Expr} {f : Failure}
    (h : Raised reasons r extensions c f) (hc : c ∈ e.children) : Raised reasons r extensions e f := by
  have hbelow : ∀ {n}, Within n c → Within n e := fun hn => .child hn hc
  cases h with
  | reference h =>
    obtain ⟨parent, body, hparent, hbody, hcall⟩ := h
    exact .reference ⟨parent, body, hbelow hparent, hbody, hcall⟩
  | pattern hwithin heval hv => exact .pattern (hbelow hwithin) heval hv
  | payload hext hwithin heval hmem hname hbody hfault =>
    exact .payload hext (hbelow hwithin) heval hmem hname hbody hfault

/-- The failures of an expression: those that its nodes raise, and that of a reference. -/
def Fails (reasons : Reasons) (r : Registry) (extensions : Bool) (e : Expr) (f : Failure) : Prop :=
  Raised reasons r extensions e f ∨ (f = .strayReference ∧ ∃ body, e = .reference body)

variable {reasons : Reasons} {r : Registry} {extensions : Bool} {c e : Expr} {f : Failure}

theorem Fails.child (h : Fails reasons r extensions c f) (hc : c ∈ e.children)
    (hcall : ∀ name args, e ≠ .call name args) : Raised reasons r extensions e f := by
  rcases h with h | ⟨rfl, body, rfl⟩
  · exact h.child hc
  · exact .reference ⟨e, body, .refl e, hc, hcall⟩

/-! ## Lists -/

theorem collect_failsBy {H : Failure → Prop} {run : Json → Traced Json}
    (hrun : ∀ v, FailsBy H (run v).result) (items : List Json) :
    FailsBy H (Eval.collect run items).result := by
  induction items with
  | nil => exact .ok _
  | cons v rest ih =>
    unfold Eval.collect
    split
    · exact ih
    · exact (hrun v).traced_bind fun w _ => ih.traced_bind fun ws _ => .ok _

theorem keep_failsBy {H : Failure → Prop} {run : Json → Traced Json}
    (hrun : ∀ v, FailsBy H (run v).result) (items : List Json) :
    FailsBy H (Eval.keep run items).result := by
  induction items with
  | nil => exact .ok _
  | cons v rest ih =>
    unfold Eval.keep
    split
    · exact ih
    · exact (hrun v).traced_bind fun b _ => ih.traced_bind fun vs _ => .ok _

theorem evalItems_failsBy {H : Failure → Prop} {v : Json} {items : List Expr}
    (hitems : ∀ e ∈ items, FailsBy H (e.eval r v).result) :
    FailsBy H (evalItems r items v).result := by
  induction items with
  | nil => exact .ok _
  | cons e rest ih =>
    refine (hitems e List.mem_cons_self).traced_bind fun x _ => ?_
    exact (ih fun e he => hitems e (List.mem_cons_of_mem _ he)).traced_bind fun xs _ => .ok _

theorem evalPairs_failsBy {H : Failure → Prop} {v : Json} {pairs : List (String × Expr)}
    (hpairs : ∀ p ∈ pairs, FailsBy H (p.2.eval r v).result) :
    FailsBy H (evalPairs r pairs v).result := by
  induction pairs with
  | nil => exact .ok _
  | cons p rest ih =>
    refine (hpairs p List.mem_cons_self).traced_bind fun x _ => ?_
    exact (ih fun p hp => hpairs p (List.mem_cons_of_mem _ hp)).traced_bind fun xs _ => .ok _

theorem evalArguments_failsBy {H : Failure → Prop} {v : Json} {args : List Expr}
    (hargs : ∀ e ∈ args, (∀ body, e ≠ .reference body) → FailsBy H (e.eval r v).result) :
    FailsBy H (evalArguments r args v).result := by
  induction args with
  | nil => exact .ok _
  | cons e rest ih =>
    have hrest := ih fun e he => hargs e (List.mem_cons_of_mem _ he)
    rcases evalArguments_cons (r := r) e rest v with ⟨body, _, heq⟩ | ⟨hbody, heq⟩
    · rw [heq]
      exact hrest.traced_bind fun xs _ => .ok _
    · rw [heq]
      exact (hargs e List.mem_cons_self hbody).traced_bind fun x _ =>
        hrest.traced_bind fun xs _ => .ok _

theorem mem_evalArguments {v : Json} {args : List Expr} {values : List Argument} {body : Expr}
    {run : Json → Traced Json} (h : (evalArguments r args v).result = .ok values)
    (hmem : .reference body run ∈ values) : .reference body ∈ args ∧ run = body.eval r := by
  induction args generalizing values with
  | nil =>
    cases h
    cases hmem
  | cons e rest ih =>
    rcases evalArguments_cons (r := r) e rest v with ⟨body', rfl, heq⟩ | ⟨_, heq⟩
    · rw [heq] at h
      obtain ⟨xs, hrest, hvalues⟩ := Traced.result_bind_ok.1 h
      cases hvalues
      rcases List.mem_cons.1 hmem with hmem | hmem
      · cases hmem
        exact ⟨List.mem_cons_self, rfl⟩
      · exact (ih hrest hmem).imp_left (List.mem_cons_of_mem _)
    · rw [heq] at h
      obtain ⟨x, _, h⟩ := Traced.result_bind_ok.1 h
      obtain ⟨xs, hrest, hvalues⟩ := Traced.result_bind_ok.1 h
      cases hvalues
      rcases List.mem_cons.1 hmem with hmem | hmem
      · cases hmem
      · exact (ih hrest hmem).imp_left (List.mem_cons_of_mem _)

/-! ## Nodes -/

/-- A selection fails for a slice with step zero only. -/
theorem select_failsBy {H : Failure → Prop} {kind : Projection}
    (hkind : ∀ s, kind = .slice s → s.step ≠ 0) (v : Json) : FailsBy H (kind.select v) := by
  unfold Projection.select
  split
  · exact .ok _
  · exact .ok _
  · exact .ok _
  · rename_i s items
    have hstep : s.step.toInt ≠ 0 := fun h => hkind s rfl (Int64.toInt_inj.1 h)
    have hindices : ∃ places, s.indices? items.length = some places := by
      unfold Slice.indices?
      simp only [hstep, if_false]
      split <;> exact ⟨_, rfl⟩
    obtain ⟨places, hplaces⟩ := hindices
    simp only [Slice.select?, hplaces, Option.map_some]
    exact .ok _
  · exact .ok _

/-- A failure that outlasts a call is a hard one of the body. -/
theorem absorb_failsBy {x : Traced Json} {v : Json} {note : Failure → Note} {H : Failure → Prop}
    (hx : ∀ f, x.result = .error f → f.isHard = true → H f) : FailsBy H (x.absorb v note).result := by
  intro f hf
  unfold Traced.absorb at hf
  split at hf
  · cases hf
  · rename_i g hresult
    split at hf
    · rename_i hhard
      cases hresult.symm.trans hf
      exact hx _ hf hhard
    · cases hf

/-- A call raises what its arguments fail with, what the references among them fail with when they
are evaluated, and what is wrong with a payload. -/
theorem call_raises {name : String} {args : List Expr} {v : Json}
    (hr : r = Library.functions reasons extensions) (hchecked : Checked r.arity? (.call name args))
    (hargs : ∀ c ∈ args, ∀ v, FailsBy (Fails reasons r extensions c) (c.eval r v).result)
    (hbodies : ∀ body, .reference body ∈ args → ∀ v,
      FailsBy (Fails reasons r extensions body) (body.eval r v).result) :
    FailsBy (Raised reasons r extensions (.call name args)) ((Expr.call name args).eval r v).result := by
  obtain ⟨arity, harity, haccepts⟩ := hchecked
  obtain ⟨fn, hfind, rfl⟩ := Option.map_eq_some_iff.1 harity
  simp only [eval, Eval.call, hfind, haccepts, if_true]
  have harguments : FailsBy (Raised reasons r extensions (.call name args)) (evalArguments r args v).result := by
    refine evalArguments_failsBy fun c hc hbody f hf => ?_
    rcases hargs c hc v f hf with hraised | ⟨_, body, rfl⟩
    · exact hraised.child hc
    · exact absurd rfl (hbody body)
  refine harguments.traced_bind fun values hvalues => absorb_failsBy fun f hbody hhard => ?_
  rcases Library.failure_of_find? (hr ▸ hfind) hbody with hfault | ⟨hext, hmem, hname, hfault⟩
  · cases hfault with
    | type => cases hhard
    | @reference body _ w _ hvalue hrun =>
      obtain ⟨hmem, rfl⟩ := mem_evalArguments hvalues hvalue
      have hbelow : Raised reasons r extensions (.reference body) f :=
        (hbodies body hmem w f hrun).child (by simp [children]) (by simp)
      exact hbelow.child hmem
  · exact .payload hext (.refl _) hvalues hmem hname hbody hfault

/-- **A checked expression fails only as its nodes can raise.** -/
theorem fails_of_eval (hr : r = Library.functions reasons extensions) (h : e.All (Checked r.arity?)) (v : Json) :
    FailsBy (Fails reasons r extensions e) (e.eval r v).result := by
  -- a function may evaluate the body of a reference in its place, so the induction carries it along
  suffices hboth : (∀ v, FailsBy (Fails reasons r extensions e) (e.eval r v).result) ∧
      ∀ body, e = .reference body → ∀ v, FailsBy (Fails reasons r extensions body) (body.eval r v).result from
    hboth.1 v
  clear v
  induction e using children_induction with
  | step e ih =>
    have hchild : ∀ c ∈ e.children, ∀ v, FailsBy (Fails reasons r extensions c) (c.eval r v).result :=
      fun c hc => (ih c hc (h.child hc)).1
    -- a child of any node but a call raises what it fails with
    have hraise : (∀ name args, e ≠ .call name args) → ∀ c ∈ e.children, ∀ v,
        FailsBy (Fails reasons r extensions e) (c.eval r v).result :=
      fun hcall c hc v f hf => .inl ((hchild c hc v f hf).child hc hcall)
    refine ⟨fun v => ?_, ?_⟩
    rotate_left
    · rintro body rfl
      exact hchild body (by simp [children])
    cases e with
    | current | identifier | literal => exact .ok _
    | index place => cases v <;> exact .ok _
    | subexpr a b | pipe a b =>
      have hraise := hraise (by simp)
      simp only [children, List.forall_mem_cons, List.not_mem_nil] at hraise
      rw [eval]
      exact (hraise.1 v).traced_bind fun w _ => hraise.2.1 w
    | project kind a b =>
      have hraise := hraise (by simp)
      simp only [children, List.forall_mem_cons] at hraise
      have hkind : ∀ s, kind = .slice s → s.step ≠ 0 := by
        rintro s rfl
        exact h.self
      rw [eval]
      refine (hraise.1 v).traced_bind fun w _ => ?_
      refine (FailsBy.ofExcept (select_failsBy hkind w)).traced_bind fun elements _ => ?_
      split
      · exact .ok _
      · exact (collect_failsBy hraise.2.1 _).traced_bind fun _ _ => .ok _
    | filter p a b =>
      have hraise := hraise (by simp)
      simp only [children, List.forall_mem_cons] at hraise
      rw [eval]
      refine (hraise.2.1 v).traced_bind fun w _ => ?_
      split
      · refine (keep_failsBy hraise.1 _).traced_bind fun kept _ => ?_
        exact (collect_failsBy hraise.2.2.1 kept).traced_bind fun _ _ => .ok _
      · exact .ok _
    | multiList items =>
      have hraise := hraise (by simp)
      unfold eval
      split
      · exact .ok _
      · exact (evalItems_failsBy fun e he => hraise e he v).traced_bind fun _ _ => .ok _
    | multiHash pairs =>
      have hraise := hraise (by simp)
      rw [eval]
      split
      · exact .ok _
      · refine (evalPairs_failsBy fun p hp => ?_).traced_bind fun _ _ => .ok _
        exact hraise p.2 (List.mem_map_of_mem hp) v
    | call name args =>
      intro f hf
      refine .inl (call_raises hr h.self hchild (fun body hbody => ?_) f hf)
      exact (ih _ hbody (h.child hbody)).2 body rfl
    | reference body => exact .error (.inr ⟨rfl, body, rfl⟩)
    | binary op a b =>
      have hraise := hraise (by simp)
      simp only [children, List.forall_mem_cons] at hraise
      cases op with
      | or | and =>
        rw [eval]
        refine (hraise.1 v).traced_bind fun w _ => ?_
        split
        · first | exact .ok _ | exact hraise.2.1 v
        · first | exact .ok _ | exact hraise.2.1 v
      | _ =>
        simp only [eval]
        exact (hraise.1 v).traced_bind fun w _ => (hraise.2.1 v).traced_bind fun _ _ => .ok _
    | not a =>
      have hraise := hraise (by simp)
      simp only [children, List.forall_mem_cons] at hraise
      rw [eval]
      exact (hraise.1 v).traced_bind fun _ _ => .ok _
    | resembles regex a =>
      have hraise := hraise (by simp)
      simp only [children, List.forall_mem_cons] at hraise
      rw [eval]
      refine (hraise.1 v).traced_bind fun w hw => ?_
      split
      · exact .ok _
      · rename_i hstring
        exact .error (.inl (.pattern (.refl _) hw fun s hs => hstring s hs))

end Expr

/-! ## Queries -/

/-- **How a compiled query fails.**  Under the built-in functions an evaluation fails with a stray
reference, with a pattern that is matched against a value other than a string, or, if payload
functions are known, with a payload that cannot be unwrapped; it never meets a step of zero, an
unknown function or a wrong number of arguments.  Without payload functions a search has a value,
and so has the evaluation if nothing is matched and all references are arguments of calls. -/
theorem failures_of_compile {reasons : Reasons} {options : Options} {source : String} {q : Query}
    (h : (Engine.ofOptions reasons options).compile source = .ok q) :
    (∀ document f, (q.expr.eval q.registry document).result = .error f →
      q.expr.Fails reasons q.registry options.extensions f ∧
        f ≠ .zeroStep ∧ (∀ name, f ≠ .unknownFunction name) ∧ ∀ message, f ≠ .arity message) ∧
    (options.extensions = false → ∀ document, ∃ v, (q.search document).result = .ok v) ∧
    (options.extensions = false → (∀ regex operand, ¬ Expr.Within (.resembles regex operand) q.expr) →
      (∀ body, q.expr ≠ .reference body) → ¬ q.expr.HasStray →
      ∀ document, ∃ v, (q.expr.eval q.registry document).result = .ok v) := by
  have hregistry : q.registry = Library.functions reasons options.extensions := by
    obtain ⟨_, _, rfl⟩ := Engine.compile_ok.1 h
    rfl
  have hfails : ∀ document f, (q.expr.eval q.registry document).result = .error f →
      q.expr.Fails reasons q.registry options.extensions f :=
    Expr.fails_of_eval hregistry (Query.checked_of_compile h)
  refine ⟨fun document f hf => ?_, fun hext document => ?_, ?_⟩
  · have hfail := hfails document f hf
    refine ⟨hfail, ?_⟩
    rcases hfail with (_ | _ | ⟨_, _, _, _, _, _, hfault⟩) | ⟨rfl, _⟩
    · exact ⟨nofun, nofun, nofun⟩
    · exact ⟨nofun, nofun, nofun⟩
    · cases hfault <;> exact ⟨nofun, nofun, nofun⟩
    · exact ⟨nofun, nofun, nofun⟩
  · refine Query.search_ok fun f hf => ?_
    rcases hfails document f hf with (_ | _ | ⟨hpayload⟩) | ⟨rfl, _⟩
    · rfl
    · rfl
    · rw [hext] at hpayload
      cases hpayload
    · rfl
  · intro hext hmatch hroot hstray document
    cases hresult : (q.expr.eval q.registry document).result with
    | ok v => exact ⟨v, rfl⟩
    | error f =>
      rcases hfails document f hresult with (h | ⟨hwithin⟩ | ⟨hpayload⟩) | ⟨_, body, hbody⟩
      · exact absurd h hstray
      · exact absurd hwithin (hmatch _ _)
      · rw [hext] at hpayload
        cases hpayload
      · exact absurd hbody (hroot body)

/-- A call of `length` is a query of this kind: it has a value on every document. -/
theorem length_always_has_value :
    ∃ q, (Engine.ofOptions .plain ⟨false, 8⟩).compile "length(a)" = .ok q ∧ ∀ document,
      (∃ v, (q.search document).result = .ok v) ∧
        ∃ v, (q.expr.eval q.registry document).result = .ok v := by
  have hcompile : (Engine.ofOptions .plain ⟨false, 8⟩).compile "length(a)" =
      .ok ⟨"length(a)", .call "length" [.identifier "a"], Library.functions .plain false⟩ := by cbv
  have hnodes : ∀ n, Expr.Within n (.call "length" [.identifier "a"]) →
      n = .call "length" [.identifier "a"] ∨ n = .identifier "a" := by
    rintro n (_ | ⟨hn, hc⟩)
    · exact .inl rfl
    · cases List.mem_singleton.1 hc
      rcases hn with _ | ⟨_, hc⟩
      · exact .inr rfl
      · cases hc
  obtain ⟨_, hsearch, heval⟩ := failures_of_compile hcompile
  refine ⟨_, hcompile, fun document => ⟨hsearch rfl document, ?_⟩⟩
  refine heval rfl (fun regex operand h => ?_) (by simp) ?_ document
  · rcases hnodes _ h with h | h <;> cases h
  · rintro ⟨parent, body, hparent, hbody, hcall⟩
    rcases hnodes _ hparent with rfl | rfl
    · exact hcall _ _ rfl
    · cases hbody

end JsonQuery
