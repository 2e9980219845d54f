import Mathlib.Data.List.Basic
import JsonQuery.Engine
import JsonQuery.Proofs.Grammar.Checked
import JsonQuery.Proofs.Grammar.Locality

/-!
# What a projection absorbs

The right side of a projection takes in the chain behind it, except behind a list of expressions,
plain or named, that directly follows the projection's dot: such a list is the whole right side, and
what stands behind it is not applied to the elements.

* `Expr.source?`, `Expr.endsInMultiSelect` — what a step is applied to, and projections with such a
  right side.
* `Grammar.absorbed_of_reads` — nothing but a projection with such a right side is a projection that
  a step is applied to.
* `Expr.withSide?`, `Grammar.Reaches.with_side` — projections that have no right side yet, and how they
  get one.
* `Expr.absorption_of_parse` — the first for texts, and that a step behind such a list is applied to
  the projection where the text in front of the list is one.
-/

namespace JsonQuery

namespace Expr

/-- Whether an expression is a projection or a filter. -/
def isProjection : Expr → Bool
  | .project .. | .filter .. => true
  | _ => false

/-- Whether an expression is a list of expressions, plain or named. -/
def isMultiSelect : Expr → Bool
  | .multiList _ | .multiHash _ => true
  | _ => false

/-- Whether an expression is a projection with a list of expressions as its right side. -/
def endsInMultiSelect : Expr → Bool
  | .project _ _ rhs => rhs.isMultiSelect
  | _ => false

/-- The expression with a right side, if it is a projection or a filter that has none. -/
def withSide? : Expr → Expr → Option Expr
  | .project kind lhs .current, side => some (.project kind lhs side)
  | .filter p lhs .current, side => some (.filter p lhs side)
  | _, _ => none

/-- What a step, a filter or a projection that does not flatten is applied to. -/
def source? : Expr → Option Expr
  | .subexpr lhs _ | .filter _ lhs _ => some lhs
  | .project .flatten _ _ => none
  | .project _ lhs _ => some lhs
  | _ => none

/-- A projection to which this node is applied ends in a list of expressions. -/
def Absorbed (n : Expr) : Prop :=
  ∀ lhs, n.source? = some lhs → lhs.isProjection = true → lhs.endsInMultiSelect = true

variable {e e' lhs p rhs side : Expr} {kind : Projection}

theorem withSide?_project : (Expr.project kind lhs rhs).withSide? side = some e' ↔
    rhs = .current ∧ e' = .project kind lhs side := by
  cases rhs <;> simp [withSide?, eq_comm]

theorem withSide?_filter : (Expr.filter p lhs rhs).withSide? side = some e' ↔
    rhs = .current ∧ e' = .filter p lhs side := by
  cases rhs <;> simp [withSide?, eq_comm]

theorem Absorbed.of_source (h : e.source? = none) : e.Absorbed := by
  intro lhs hlhs
  rw [h] at hlhs
  cases hlhs

end Expr

namespace Grammar

variable {arity? : String → Option Arity} {S : Reading} {power : Nat} {ts mid rest : List Token}
  {e left lhs : Expr}

/-! ## Tokens without filters and groups -/

/-- Every opening parenthesis stands directly behind an identifier. -/
def CallsOnly (ts : List Token) : Prop :=
  ∀ pre post, ts = pre ++ .openParen :: post → ∃ before name, pre = before ++ [.identifier name]

/-- There is no filter, and an opening parenthesis behind a token is one behind an identifier. -/
structure Plain (ts : List Token) : Prop where
  noFilter : Token.filter ∉ ts
  calls : ∀ pre t post, ts = pre ++ t :: .openParen :: post → ∃ name, t = .identifier name

/-- Plain tokens that do not start with an opening parenthesis. -/
structure Clean (ts : List Token) : Prop extends Plain ts where
  noGroup : ∀ post, ts ≠ .openParen :: post

theorem Clean.of_callsOnly (hfilter : Token.filter ∉ ts) (hcalls : CallsOnly ts) : Clean ts := by
  refine ⟨⟨hfilter, fun pre t post h => ?_⟩, fun post h => ?_⟩
  · obtain ⟨before, name, hbefore⟩ := hcalls (pre ++ [t]) post (by simpa using h)
    exact ⟨name, (List.append_inj' hbefore rfl).2 |> List.singleton_inj.1⟩
  · obtain ⟨before, name, hbefore⟩ := hcalls [] post h
    simp at hbefore

theorem Plain.behind (pre : List Token) (h : Plain (pre ++ ts)) : Plain ts := by
  refine ⟨fun hmem => h.noFilter (List.mem_append_right pre hmem), fun before t post heq => ?_⟩
  exact h.calls (pre ++ before) t post (by rw [heq, List.append_assoc])

theorem Plain.tail {t : Token} (h : Plain (t :: ts)) : Plain ts := .behind [t] h

theorem Plain.clean {t : Token} (h : Plain (t :: ts)) (ht : ∀ name, t ≠ .identifier name) :
    Clean ts := by
  refine ⟨h.tail, ?_⟩
  rintro post rfl
  obtain ⟨name, hname⟩ := h.calls [] t post rfl
  exact ht name hname

/-! ## Invariants of a chain -/

/-- Either the right side of a projection is a list of expressions, or no step follows. -/
def Settled (left : Expr) (mid : List Token) : Prop :=
  left.isProjection = true → left.endsInMultiSelect = true ∨ Token.nextPower mid ≤ Token.star.power

theorem Settled.of_other (h : left.isProjection = false) : Settled left mid := by
  intro hproject
  rw [h] at hproject
  cases hproject

section Parts

variable (hS : ∀ {power ts e rest}, S power ts e rest → Clean ts →
    e.All Expr.Absorbed ∧ Plain rest ∧ Token.nextPower rest ≤ power)
include hS

theorem absorbed_sequence {es : List Expr} {close : Closing} (h : Sequence (S 0) close ts es rest)
    (hts : Clean ts) : ∀ e ∈ es, e.All Expr.Absorbed := by
  induction h with
  | last h _ =>
    intro e he
    rw [List.mem_singleton.1 he]
    exact (hS h hts).1
  | more h _ _ ih =>
    obtain ⟨ha, hrest, _⟩ := hS h hts
    intro e he
    rcases List.mem_cons.1 he with rfl | he
    · exact ha
    · exact ih (hrest.clean (by simp)) e he

theorem absorbed_named {ps : List (String × Expr)} (h : Sequence (Named S) .brace ts ps rest)
    (hts : Plain ts) : ∀ p ∈ ps, p.2.All Expr.Absorbed := by
  have hnamed : ∀ {ts p rest}, Named S ts p rest → Plain ts → p.2.All Expr.Absorbed ∧ Plain rest := by
    intro ts p rest h hts
    cases h with
    | identifier h => exact (hS h (hts.tail.clean (by simp))).imp_right And.left
    | quoted h => exact (hS h (hts.tail.clean (by simp))).imp_right And.left
  induction h with
  | last h _ =>
    intro p hp
    rw [List.mem_singleton.1 hp]
    exact (hnamed h hts).1
  | more h _ _ ih =>
    obtain ⟨ha, hrest⟩ := hnamed h hts
    intro p hp
    rcases List.mem_cons.1 hp with rfl | hp
    · exact ha
    · exact ih hrest.tail p hp

theorem absorbed_multiList {es : List Expr} (h : Sequence (S 0) .bracket ts es rest)
    (hts : Clean ts) : (Expr.multiList es).All Expr.Absorbed :=
  Expr.all_iff.2 ⟨.of_source rfl, absorbed_sequence hS h hts⟩

theorem absorbed_multiHash {ps : List (String × Expr)} (h : Sequence (Named S) .brace ts ps rest)
    (hts : Plain ts) : (Expr.multiHash ps).All Expr.Absorbed := by
  refine Expr.all_iff.2 ⟨.of_source rfl, fun c hc => ?_⟩
  obtain ⟨p, hp, rfl⟩ := List.mem_map.1 hc
  exact absorbed_named hS h hts p hp

theorem AfterDot.absorbed (h : AfterDot S power ts e rest) (hts : Clean ts) :
    e.All Expr.Absorbed ∧ (e.isMultiSelect = true ∨ Token.nextPower rest ≤ power) := by
  cases h with
  | list h => exact ⟨absorbed_multiList hS h (hts.toPlain.clean (by simp)), .inl rfl⟩
  | hash h => exact ⟨absorbed_multiHash hS h hts.tail, .inl rfl⟩
  | step _ h =>
    obtain ⟨he, _, hpower⟩ := hS h hts
    exact ⟨he, .inr hpower⟩

theorem Projected.absorbed (h : Projected S power ts e rest) (hts : Plain ts)
    (hpower : power ≤ Token.star.power) : e.All Expr.Absorbed ∧
      (e.isMultiSelect = true ∨ Token.nextPower rest ≤ Token.star.power) := by
  cases h with
  | none hstop =>
    refine ⟨Expr.all_leaf (.of_source rfl) rfl, .inr ?_⟩
    simp only [projectionStop, Token.power] at *
    omega
  | dot h =>
    obtain ⟨he, hrest⟩ := h.absorbed hS (hts.clean (by simp))
    exact ⟨he, hrest.imp_right fun h => Nat.le_trans h hpower⟩
  | bracket h =>
    obtain ⟨he, _, hrest⟩ := hS h ⟨hts, by simp⟩
    exact ⟨he, .inr (Nat.le_trans hrest hpower)⟩
  | filter h => exact absurd List.mem_cons_self hts.noFilter

/-- A projection absorbs what follows, unless its right side is a list of expressions. -/
theorem Projected.absorbed_project {kind : Projection} {rhs : Expr}
    (h : Projected S power ts rhs rest) (hts : Plain ts) (hpower : power ≤ Token.star.power)
    (hlhs : lhs.All Expr.Absorbed)
    (hkind : kind ≠ .flatten → lhs.isProjection = true → lhs.endsInMultiSelect = true) :
    (Expr.project kind lhs rhs).All Expr.Absorbed ∧ Settled (.project kind lhs rhs) rest := by
  obtain ⟨hrhs, hsettled⟩ := h.absorbed hS hts hpower
  refine ⟨Expr.all_iff.2 ⟨?_, by simpa [Expr.children] using ⟨hlhs, hrhs⟩⟩, fun _ => hsettled⟩
  intro source hsource
  cases kind with
  | flatten => cases hsource
  | _ =>
    cases hsource
    exact hkind (by simp)

theorem Bracketed.absorbed (h : Bracketed S lhs ts e rest) (hts : Plain ts)
    (hlhs : lhs.All Expr.Absorbed) (hsource : lhs.isProjection = true → lhs.endsInMultiSelect = true) :
    e.All Expr.Absorbed ∧ Settled e rest := by
  cases h with
  | index =>
    have hindex : ∀ n, (Expr.index n).All Expr.Absorbed := fun _ => Expr.all_leaf (.of_source rfl) rfl
    unfold indexed
    split
    · exact ⟨hindex _, .of_other rfl⟩
    · refine ⟨Expr.all_iff.2 ⟨?_, by simpa [Expr.children] using ⟨hlhs, hindex _⟩⟩, .of_other rfl⟩
      intro source h
      cases h
      exact hsource
  | list h =>
    exact h.absorbed_project hS hts.tail.tail (Nat.le_refl _) hlhs fun _ => hsource
  | @slice start stop step ts _ _ _ h =>
    have hts : Plain ts := by
      refine .behind (numberTokens start ++ .colon :: (numberTokens stop ++
        (stepTokens step ++ [.closeBracket]))) ?_
      simpa using hts
    exact h.absorbed_project hS hts (Nat.le_refl _) hlhs fun _ => hsource

theorem Primary.absorbed (h : Primary arity? S ts e rest) (hts : Clean ts) :
    e.All Expr.Absorbed ∧ Settled e rest := by
  have hcurrent : Expr.current.All Expr.Absorbed := Expr.all_leaf (.of_source rfl) rfl
  have hplain : Expr.current.isProjection = true → Expr.current.endsInMultiSelect = true :=
    fun h => absurd h (by decide)
  have hflatten : Token.flatten.power ≤ Token.star.power := by decide
  cases h with
  | current | identifier | quoted | raw | literal => exact ⟨Expr.all_leaf (.of_source rfl) rfl, .of_other rfl⟩
  | call harity haccepts h =>
    refine ⟨Expr.all_iff.2 ⟨.of_source rfl, ?_⟩, .of_other rfl⟩
    cases h with
    | none => simp [Expr.children]
    | some _ h => exact absorbed_sequence hS h (hts.tail.clean (by simp))
  | values h => exact h.absorbed_project hS hts.tail (Nat.le_refl _) hcurrent fun _ => hplain
  | bracketed h => exact h.absorbed hS hts.tail hcurrent hplain
  | multiList _ h => exact ⟨absorbed_multiList hS h (hts.toPlain.clean (by simp)), .of_other rfl⟩
  | flatten h => exact h.absorbed_project hS hts.tail hflatten hcurrent fun h => absurd rfl h
  | filter h => exact absurd List.mem_cons_self hts.noFilter
  | multiHash h => exact ⟨absorbed_multiHash hS h hts.tail, .of_other rfl⟩
  | reference h | not h =>
    obtain ⟨hbody, _, _⟩ := hS h (hts.toPlain.clean (by simp))
    exact ⟨Expr.all_iff.2 ⟨.of_source rfl, by simpa [Expr.children] using hbody⟩, .of_other rfl⟩
  | group h => exact absurd rfl (hts.noGroup _)

theorem Extension.absorbed (h : Extension S left ts e rest) (hts : Plain ts)
    (hleft : left.All Expr.Absorbed) (hsettled : Settled left ts) :
    e.All Expr.Absorbed ∧ Settled e rest := by
  have hflatten : Token.flatten.power ≤ Token.star.power := by decide
  -- a token that takes the chain further by a step binds too strong for a settled projection
  have hsource : Token.star.power < Token.nextPower ts → left.isProjection = true →
      left.endsInMultiSelect = true := by
    intro hpower hproject
    exact (hsettled hproject).resolve_right (by omega)
  cases h with
  | values h =>
    exact h.absorbed_project hS hts.tail.tail (Nat.le_refl _) hleft
      fun _ => hsource (by simp [Token.nextPower, Token.power])
  | subexpr _ h =>
    obtain ⟨hrhs, _⟩ := h.absorbed hS (hts.clean (by simp))
    refine ⟨Expr.all_iff.2 ⟨?_, by simpa [Expr.children] using ⟨hleft, hrhs⟩⟩, .of_other rfl⟩
    intro source h
    cases h
    exact hsource (by simp [Token.nextPower, Token.power])
  | bracketed h =>
    exact h.absorbed hS hts.tail hleft (hsource (by simp [Token.nextPower, Token.power]))
  | flatten h => exact h.absorbed_project hS hts.tail hflatten hleft fun h => absurd rfl h
  | filter h => exact absurd List.mem_cons_self hts.noFilter
  | pipe h =>
    obtain ⟨hrhs, _, _⟩ := hS h (hts.clean (by simp))
    exact ⟨Expr.all_iff.2 ⟨.of_source rfl, by simpa [Expr.children] using ⟨hleft, hrhs⟩⟩, .of_other rfl⟩
  | resembles => exact ⟨Expr.all_iff.2 ⟨.of_source rfl, by simpa [Expr.children] using hleft⟩, .of_other rfl⟩
  | @binary t op ts rhs rest hop h =>
    have hname : ∀ name, t ≠ .identifier name := by
      rintro name rfl
      cases hop
    obtain ⟨hrhs, _, _⟩ := hS h (hts.clean hname)
    exact ⟨Expr.all_iff.2 ⟨.of_source rfl, by simpa [Expr.children] using ⟨hleft, hrhs⟩⟩, .of_other rfl⟩

end Parts

/-- Nothing but a projection that ends in a list of expressions is a projection to which a step is
applied. -/
theorem absorbed_of_reads (h : Reads arity? power ts e rest) (hts : Clean ts) :
    e.All Expr.Absorbed := by
  have hS : ∀ {power ts e rest},
      readsWith arity? (fun _ ts e _ => Clean ts → e.All Expr.Absorbed) power ts e rest → Clean ts →
        e.All Expr.Absorbed ∧ Plain rest ∧ Token.nextPower rest ≤ power := by
    rintro power ts e rest ⟨hread, he⟩ hts
    obtain ⟨t, pre, rfl, _⟩ := hread.local
    exact ⟨he hts, hts.toPlain.behind (t :: pre), hread.nextPower_le⟩
  refine reads_induction (P := fun _ ts e _ => Clean ts → e.All Expr.Absorbed)
    (C := fun _ ts left mid => Clean ts → left.All Expr.Absorbed ∧ Settled left mid)
    ?start ?step ?stop h hts
  case start => exact fun h hts => h.absorbed hS hts
  case step =>
    intro power ts left mid left' mid' hreach hC _ h hts
    obtain ⟨hleft, hsettled⟩ := hC hts
    obtain ⟨t, pre, rfl, _⟩ := hreach.local
    exact h.absorbed hS (hts.toPlain.behind (t :: pre)) hleft hsettled
  case stop => exact fun hC _ hts => (hC hts).1

/-! ## Right sides that are still open -/

/-- A bracket makes neither the current value nor a list of expressions. -/
theorem Bracketed.ne (h : Bracketed S lhs ts e rest) : e ≠ .current ∧ e.isMultiSelect = false := by
  cases h with
  | index =>
    unfold indexed
    split <;> exact ⟨nofun, rfl⟩
  | list | slice => exact ⟨nofun, rfl⟩

theorem Filtered.ne (h : Filtered S lhs ts e rest) : e ≠ .current ∧ e.isMultiSelect = false := by
  cases h
  exact ⟨nofun, rfl⟩

theorem Extension.ne (h : Extension S left ts e rest) : e ≠ .current ∧ e.isMultiSelect = false := by
  cases h with
  | bracketed h => exact h.ne
  | filter h => exact h.ne
  | _ => exact ⟨nofun, rfl⟩

/-- The current value and lists of expressions are read without a step. -/
theorem Reads.primary (h : Reads arity? power ts e rest) (he : e = .current ∨ e.isMultiSelect = true) :
    Primary arity? (Reads arity?) ts e rest := by
  cases h.reaches with
  | start h => exact h
  | link _ _ h =>
    rcases he with he | he
    · exact absurd he h.ne.1
    · rw [h.ne.2] at he
      cases he

/-- A right side that is the current value is none. -/
theorem Projected.eq_of_current (h : Projected (Reads arity?) power ts .current rest) : ts = rest := by
  cases h with
  | none => rfl
  | dot h =>
    cases h with
    | step hstarts h => cases h.primary (.inl rfl) <;> cases hstarts
  | bracket h =>
    cases h.primary (.inl rfl) with
    | bracketed h => exact absurd rfl h.ne.1
  | filter h =>
    cases h.primary (.inl rfl) with
    | filter h => exact absurd rfl h.ne.1

section Side

variable {behind : List Token} {side e' : Expr} (hside : ∀ power, Projected (Reads arity?) power behind side rest)
include hside

theorem Bracketed.with_side (h : Bracketed (Reads arity?) lhs ts e []) (he : e.withSide? side = some e') :
    Bracketed (Reads arity?) lhs (ts ++ behind) e' rest := by
  cases h with
  | index =>
    unfold indexed at he
    split at he <;> cases he
  | list h =>
    obtain ⟨rfl, rfl⟩ := Expr.withSide?_project.1 he
    cases h.eq_of_current
    exact .list (hside _)
  | @slice start stop step _ _ _ hzero h =>
    obtain ⟨rfl, rfl⟩ := Expr.withSide?_project.1 he
    cases h.eq_of_current
    have hslice := @Bracketed.slice (Reads arity?) lhs start stop step behind side rest hzero (hside _)
    simpa using hslice

theorem Filtered.with_side (h : Filtered (Reads arity?) lhs ts e []) (he : e.withSide? side = some e') :
    Filtered (Reads arity?) lhs (ts ++ behind) e' rest := by
  obtain ⟨hpredicate, hrhs⟩ := h
  obtain ⟨rfl, rfl⟩ := Expr.withSide?_filter.1 he
  cases hrhs.eq_of_current
  obtain ⟨t, pre, rfl, hlocal⟩ := hpredicate.local
  have hfilter : Filtered (Reads arity?) lhs _ _ rest :=
    .mk (hlocal (.closeBracket :: behind) (Nat.le_refl _)) (hside _)
  simpa using hfilter

theorem Primary.with_side (h : Primary arity? (Reads arity?) ts e []) (he : e.withSide? side = some e')
    (hclose : ts.getLast? ≠ some .closeParen) : Primary arity? (Reads arity?) (ts ++ behind) e' rest := by
  cases h with
  | values h | flatten h =>
    obtain ⟨rfl, rfl⟩ := Expr.withSide?_project.1 he
    cases h.eq_of_current
    first | exact .values (hside _) | exact .flatten (hside _)
  | bracketed h => exact .bracketed (h.with_side hside he)
  | filter h => exact .filter (h.with_side hside he)
  | group h =>
    obtain ⟨t, pre, rfl, -⟩ := h.local
    have hlast : (Token.openParen :: t :: pre ++ [Token.closeParen]).getLast? = some .closeParen :=
      List.getLast?_concat
    exact absurd hlast hclose
  | _ => cases he

theorem Extension.with_side (h : Extension (Reads arity?) left ts e []) (he : e.withSide? side = some e') :
    Extension (Reads arity?) left (ts ++ behind) e' rest := by
  cases h with
  | values h | flatten h =>
    obtain ⟨rfl, rfl⟩ := Expr.withSide?_project.1 he
    cases h.eq_of_current
    first | exact .values (hside _) | exact .flatten (hside _)
  | bracketed h => exact .bracketed (h.with_side hside he)
  | filter h => exact .filter (h.with_side hside he)
  | _ => cases he

/-- What can be a right side is that of the projection in front of it, unless that stands in parentheses. -/
theorem Reaches.with_side (h : Reaches arity? power ts e []) (he : e.withSide? side = some e')
    (hclose : ts.getLast? ≠ some .closeParen) : Reaches arity? power (ts ++ behind) e' rest := by
  cases h with
  | start h => exact .start (h.with_side hside he hclose)
  | link hreach hpower h =>
    obtain ⟨t, pre, rfl, hlocal⟩ := hreach.local
    have hnext := h.with_side hside he
    obtain ⟨u, more, rfl, -⟩ := Extension.local (S := Reads arity?) (fun _ => Reads.local) h
    have hlink := Reaches.link (hlocal (u :: (more ++ behind)) (Nat.le_refl _)) hpower (by simpa using hnext)
    simpa using hlink

end Side

/-- What is read as a list of expressions behind a dot is read so whatever stands behind it. -/
theorem Reads.afterDot_of_multiSelect (h : Reads arity? 0 (.current :: .dot :: ts) (.subexpr .current e) [])
    (he : e.isMultiSelect = true) (power : Nat) (rest : List Token) :
    AfterDot (Reads arity?) power (ts ++ rest) e rest := by
  have hstart : ∀ {mid}, Reaches arity? 0 (.current :: .dot :: ts) .current mid → mid = .dot :: ts := by
    intro mid h
    generalize hleft : Expr.current = left at h
    cases h with
    | start h =>
      cases h
      rfl
    | link _ _ h => exact absurd hleft.symm h.ne.1
  cases h.reaches with
  | start h => cases h
  | link hreach _ h =>
    generalize hsub : Expr.subexpr .current e = e' at h
    cases h with
    | subexpr _ h =>
      cases hsub
      cases hstart hreach
      cases h with
      | list h =>
        obtain ⟨t, body, rfl, hlocal⟩ := h.local Reads.local
        have hlist : AfterDot (Reads arity?) power _ _ rest := .list (hlocal rest)
        simpa [Closing.token] using hlist
      | hash h =>
        obtain ⟨t, body, rfl, hlocal⟩ := h.local (Named.local (S := Reads arity?) fun _ => Reads.local)
        have hhash : AfterDot (Reads arity?) power _ _ rest := .hash (hlocal rest)
        simpa [Closing.token] using hhash
      | step hstarts h =>
        cases h.primary (.inr he) with
        | identifier | call | quoted | values => cases he
        | _ => cases hstarts
    | bracketed h =>
      cases h with
      | index =>
        unfold indexed at hsub
        split at hsub <;> cases hsub
        cases he
      | list | slice => cases hsub
    | filter h =>
      cases h
      cases hsub
    | _ => cases hsub

/-! ## Steps behind a list of expressions -/

/-- The tokens that open a projection of the current value. -/
inductive Opening : Projection → List Token → Prop
  | values : Opening .values [.star]
  | list : Opening .list [.openBracket, .star, .closeBracket]
  | flatten : Opening .flatten [.flatten]
  | slice {start stop step} : step ≠ some (some 0) →
      Opening (.slice ⟨start, stop, step.join.getD 1⟩)
        (.openBracket :: (numberTokens start ++
          .colon :: (numberTokens stop ++ (stepTokens step ++ [.closeBracket]))))

theorem Opening.primary {kind : Projection} {opening : List Token} {rhs : Expr}
    (h : Opening kind opening) (hrhs : ∀ power, Projected S power ts rhs rest) :
    Primary arity? S (opening ++ ts) (.project kind .current rhs) rest := by
  cases h with
  | values => exact .values (hrhs _)
  | list => exact .bracketed (.list (hrhs _))
  | flatten => exact .flatten (hrhs _)
  | @slice start stop step hzero =>
    have hslice := @Bracketed.slice S .current start stop step ts rhs rest hzero (hrhs _)
    have hprimary : Primary arity? S _ _ _ := .bracketed hslice
    simpa using hprimary

theorem Opening.reads {kind : Projection} {opening : List Token} (h : Opening kind opening) :
    Reads arity? 0 opening (.project kind .current .current) [] := by
  have hnone : ∀ power, Projected (Reads arity?) power [] .current [] := fun _ => .none (by decide)
  have hstart : Primary arity? (Reads arity?) _ _ [] := h.primary hnone
  rw [List.append_nil] at hstart
  exact reads_iff.2 ⟨.start hstart, Nat.zero_le 0⟩

theorem Opening.getLast?_ne {kind : Projection} {opening : List Token} (h : Opening kind opening) :
    opening.getLast? ≠ some .closeParen := by
  cases h <;> simp [List.getLast?_cons]

/-- One expression is a list up to the bracket behind it. -/
theorem Sequence.one (h : Reads arity? 0 ts e []) :
    Sequence (Reads arity? 0) .bracket (ts ++ [.closeBracket]) [e] [] := by
  obtain ⟨t, pre, rfl, hlocal⟩ := h.local
  have hlist : Sequence (Reads arity? 0) .bracket _ [e] [] := .last (hlocal [.closeBracket] (Nat.le_refl 0)) rfl
  simpa using hlist

/-- A step behind a list of expressions is applied to the projection in front of the list's dot, if that is a
projection without a right side that is not in parentheses. -/
theorem reads_step_behind_side {m e' : Expr} {pre : List Token} (name : String) (h : Reads arity? 0 pre e [])
    (hclose : pre.getLast? ≠ some .closeParen)
    (hts : Reads arity? 0 (.current :: .dot :: ts) (.subexpr .current m) []) (hm : m.isMultiSelect = true)
    (he : e.withSide? m = some e') :
    Reads arity? 0 (pre ++ .dot :: (ts ++ [.dot, .identifier name])) (.subexpr e' (.identifier name)) [] := by
  have hside : ∀ power, Projected (Reads arity?) power (.dot :: (ts ++ [.dot, .identifier name])) m
      [.dot, .identifier name] := fun power => .dot (hts.afterDot_of_multiSelect hm power _)
  have hname : Reads arity? Token.dot.power [.identifier name] (.identifier name) [] :=
    reads_iff.2 ⟨.start (.identifier nofun), by decide⟩
  have hstart := h.reaches.with_side hside he hclose
  exact reads_iff.2 ⟨.link hstart (Nat.zero_lt_succ 39) (.subexpr nofun (.step rfl hname)), Nat.le_refl 0⟩

/-- This is so behind every opening of a projection of the current value, for a list of any expression. -/
theorem reads_step_behind_multiList {kind : Projection} {opening : List Token} (name : String)
    (h : Opening kind opening) (hbody : Reads arity? 0 ts e []) :
    Reads arity? 0 (opening ++ .dot :: .openBracket :: (ts ++ [.closeBracket, .dot, .identifier name]))
      (.subexpr (.project kind .current (.multiList [e])) (.identifier name)) [] := by
  have hlist : Reads arity? 0 (.current :: .dot :: .openBracket :: (ts ++ [.closeBracket]))
      (.subexpr .current (.multiList [e])) [] :=
    reads_iff.2 ⟨.link (.start .current) (Nat.zero_lt_succ 39) (.subexpr nofun (.list (.one hbody))), Nat.zero_le 0⟩
  simpa using reads_step_behind_side name h.reads h.getLast?_ne hlist rfl rfl

end Grammar

/-! ## Texts -/

/-- **What a projection absorbs.**  In an expression whose text has no filter and parentheses only
for calls, a projection to which a step or a projection that does not flatten is applied has a list
of expressions as its right side.  Where such a list directly follows the dot of a projection of the
current value, a step behind it is applied to the projection; and so it is, for lists of any number of
expressions, plain or named, where the text in front of the dot is a projection or a filter of any
operand that has no right side yet and is not in parentheses. -/
theorem Expr.absorption_of_parse (arity? : String → Option Arity) :
    (∀ limit text ts e, Expr.parse arity? limit text = .ok e → Scans text.toList ts →
      Token.filter ∉ ts → Grammar.CallsOnly ts →
      ∀ n lhs, Within n e → n.source? = some lhs → lhs.isProjection = true →
        lhs.endsInMultiSelect = true) ∧
    (∀ kind opening limit ts e name, Grammar.Opening kind opening →
      Grammar.whole arity? limit ts = .ok e → ∃ bound, ∀ limit' ≥ bound,
        Grammar.whole arity? limit'
            (opening ++ .dot :: .openBracket :: (ts ++ [.closeBracket, .dot, .identifier name])) =
          .ok (.subexpr (.project kind .current (.multiList [e])) (.identifier name))) ∧
    (∀ limit pre ts e m e' name, Grammar.whole arity? limit pre = .ok e → pre.getLast? ≠ some .closeParen →
      Grammar.whole arity? limit (.current :: .dot :: ts) = .ok (.subexpr .current m) →
      m.isMultiSelect = true → e.withSide? m = some e' → ∃ bound, ∀ limit' ≥ bound,
        Grammar.whole arity? limit' (pre ++ .dot :: (ts ++ [.dot, .identifier name])) =
          .ok (.subexpr e' (.identifier name))) := by
  refine ⟨?_, ?_, ?_⟩
  · intro limit text ts e h hts hfilter hcalls n lhs hn
    obtain ⟨us, hus, hread⟩ := Expr.parse_ok.1 h
    cases hus.functional hts
    exact Grammar.absorbed_of_reads ⟨_, _, hread⟩ (.of_callsOnly hfilter hcalls) n hn lhs
  · intro kind opening limit ts e name hopening h
    obtain ⟨bound, hbound⟩ := (Grammar.reads_step_behind_multiList name hopening
      ⟨_, _, Grammar.whole_ok.1 h⟩).within
    exact ⟨bound, fun limit' hle => Grammar.whole_ok.2 (hbound limit' hle limit')⟩
  · intro limit pre ts e m e' name h hclose hts hm he
    obtain ⟨bound, hbound⟩ := (Grammar.reads_step_behind_side name ⟨_, _, Grammar.whole_ok.1 h⟩ hclose
      ⟨_, _, Grammar.whole_ok.1 hts⟩ hm he).within
    exact ⟨bound, fun limit' hle => Grammar.whole_ok.2 (hbound limit' hle limit')⟩

/-- In the first text the member `b` is taken of the projection's list, not of its elements; in the second
one, the member `d`. -/
theorem Expr.step_behind_list_of_values :
    let arity? := (Library.functions .plain true).arity?
    let pre : List Token := [.identifier "a", .openBracket, .star, .closeBracket]
    let list : List Token := [.openBracket, .identifier "b", .comma, .identifier "c", .closeBracket]
    (∃ e lhs, Expr.parse arity? 256 "*.[a].b" = .ok e ∧ e.source? = some lhs ∧
      lhs.isProjection = true ∧ lhs.endsInMultiSelect = true) ∧
    ∃ bound, ∀ limit ≥ bound, Grammar.whole arity? limit (pre ++ .dot :: (list ++ [.dot, .identifier "d"])) =
      .ok (.subexpr (.project .list (.identifier "a") (.multiList [.identifier "b", .identifier "c"]))
        (.identifier "d")) := by
  intro arity? pre list
  have hparse : Expr.parse arity? 256 "*.[a].b" =
      .ok (.subexpr (.project .values .current (.multiList [.identifier "a"])) (.identifier "b")) := by
    cbv
  have hscans : Scans "*.[a].b".toList
      [.star, .dot, .openBracket, .identifier "a", .closeBracket, .dot, .identifier "b"] :=
    Scans.ofText.1 ⟨_, by cbv, rfl⟩
  have hcalls : Grammar.CallsOnly
      [.star, .dot, .openBracket, .identifier "a", .closeBracket, .dot, .identifier "b"] := by
    intro pre post h
    have hmem : Token.openParen ∈ pre ++ .openParen :: post := by simp
    rw [← h] at hmem
    simp at hmem
  have hpre : Grammar.whole arity? 256 pre = .ok (.project .list (.identifier "a") .current) := by cbv
  have hlist : Grammar.whole arity? 256 (.current :: .dot :: list) =
      .ok (.subexpr .current (.multiList [.identifier "b", .identifier "c"])) := by cbv
  obtain ⟨habsorbed, -, hstep⟩ := Expr.absorption_of_parse arity?
  refine ⟨⟨_, .project .values .current (.multiList [.identifier "a"]), hparse, rfl, rfl, ?_⟩, ?_⟩
  · exact habsorbed 256 _ _ _ hparse hscans (by simp) hcalls _ _ (.refl _) rfl rfl
  · exact hstep 256 pre list _ _ _ "d" hpre (by simp [pre]) hlist rfl rfl

end JsonQuery
