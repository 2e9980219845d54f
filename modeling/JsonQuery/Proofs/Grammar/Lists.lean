import JsonQuery.Engine
import JsonQuery.Proofs.Grammar.Absorption

/-!
# Where lists of expressions stand

A bracket opens a list of expressions where it stands behind a dot, or where neither a number, a colon nor
a star with its closing bracket follows.  Such a bracket can follow an operand only if that operand is a
projection whose right side it starts.

* `Expr.lists`, `Grammar.listBrackets` — the lists in an expression, and the brackets among tokens that
  open one.
* `Token.endsOperand`, `Grammar.EndsProjection` — the tokens that end an operand, and the rows of tokens
  that end with the opening of a projection.
* `Grammar.Span` — what is known of the tokens that are read, and how it is put together.
* `Expr.list_places_of_parse` — lists and their brackets are equal in number, and a bracket that opens a
  list directly behind an operand follows the opening of a projection; behind a projection that has no
  right side yet and is not in parentheses, a list is accepted.
-/

namespace JsonQuery

/-! ## Definitions -/

namespace Expr

mutual

/-- The number of lists of expressions in an expression, itself included. -/
def lists : Expr → Nat
  | .current | .identifier _ | .index _ | .literal _ => 0
  | .subexpr a b | .pipe a b | .project _ a b | .binary _ a b => lists a + lists b
  | .filter p a b => lists a + (lists p + lists b)
  | .multiList items => 1 + listsItems items
  | .multiHash pairs => listsPairs pairs
  | .call _ args => listsItems args
  | .reference a | .not a | .resembles _ a => lists a

/-- The number of lists of expressions in several expressions. -/
def listsItems : List Expr → Nat
  | [] => 0
  | a :: rest => lists a + listsItems rest

/-- The number of lists of expressions in several named expressions. -/
def listsPairs : List (String × Expr) → Nat
  | [] => 0
  | (_, a) :: rest => lists a + listsPairs rest

end

theorem listsItems_eq (es : List Expr) : listsItems es = es.foldr (fun e n => lists e + n) 0 := by
  induction es with
  | nil => rfl
  | cons e es ih => rw [listsItems, ih, List.foldr_cons]

theorem listsPairs_eq (ps : List (String × Expr)) :
    listsPairs ps = ps.foldr (fun p n => lists p.2 + n) 0 := by
  induction ps with
  | nil => rfl
  | cons p ps ih => rw [listsPairs, ih, List.foldr_cons]

end Expr

/-- Whether a token can end an operand. -/
def Token.endsOperand : Token → Bool
  | identifier _ | quoted _ | raw _ | literal _ | current | star | flatten => true
  | closeBracket | closeBrace | closeParen => true
  | _ => false

/-- Whether a token is neither a bracket nor a dot. -/
def Token.isPlain : Token → Bool
  | openBracket | dot => false
  | _ => true

namespace Grammar

/-- The number of brackets that open lists of expressions; the first token may stand behind a dot. -/
def listBrackets : Bool → List Token → Nat
  | _, [] => 0
  | dotted, .openBracket :: ts => (if dotted || !startsBracket ts then 1 else 0) + listBrackets false ts
  | _, .dot :: ts => listBrackets true ts
  | _, _ :: ts => listBrackets false ts

/-- Tokens that end with an operand. -/
def EndsOperand (pre : List Token) : Prop := ∃ before t, pre = before ++ [t] ∧ t.endsOperand = true

/-- Tokens that end with the opening of a projection: a star, `[]`, `[*]` not behind a dot, a slice, or a
filter with its predicate. -/
inductive EndsProjection (arity? : String → Option Arity) : List Token → Prop
  | values {before} : EndsProjection arity? (before ++ [.star])
  | flatten {before} : EndsProjection arity? (before ++ [.flatten])
  | list {before} : before.getLast? ≠ some .dot →
      EndsProjection arity? (before ++ [.openBracket, .star, .closeBracket])
  | slice {before start stop step} : EndsProjection arity? (before ++ .openBracket ::
      (numberTokens start ++ .colon :: (numberTokens stop ++ (stepTokens step ++ [.closeBracket]))))
  | filter {before inside predicate} : Reads arity? 0 inside predicate [] →
      EndsProjection arity? (before ++ .filter :: (inside ++ [.closeBracket]))

variable {arity? : String → Option Arity} {S : Reading} {power v w : Nat} {Q Q' : List Token → Prop}
  {pre ts mid rest post : List Token} {t : Token} {e left lhs : Expr}

/-- A bracket between two rows of tokens that opens a list directly behind an operand follows the opening
of a projection. -/
def Fine (arity? : String → Option Arity) (pre post : List Token) : Prop :=
  EndsOperand pre → startsBracket post = false → EndsProjection arity? pre

/-- All brackets of `ts` in front of `rest` are fine where `ts` stands behind `pre`. -/
def Covered (arity? : String → Option Arity) (pre ts rest : List Token) : Prop :=
  ∀ a b, ts = a ++ .openBracket :: b → rest.length ≤ b.length → Fine arity? (pre ++ a) b

/-- Tokens behind which an expression can start with a bracket. -/
def Entry (arity? : String → Option Arity) (ts pre : List Token) : Prop :=
  ∀ post, ts = .openBracket :: post → pre.getLast? ≠ some .dot ∧ Fine arity? pre post

/-- Tokens that end with one that neither ends an operand nor is a dot. -/
def Opened (pre : List Token) : Prop := ∃ before t, pre = before ++ [t] ∧ t.endsOperand = false ∧ t ≠ .dot

/-- What is read in front of `rest` ends with an operand, has only fine brackets and opens `w` lists,
wherever it stands behind tokens with a property. -/
structure Span (arity? : String → Option Arity) (Q : List Token → Prop) (w : Nat)
    (ts rest : List Token) : Prop where
  ends : ∃ seg, ts = seg ++ rest ∧ ∀ pre, Q pre → EndsOperand (pre ++ seg)
  covered : ∀ pre, Q pre → Covered arity? pre ts rest
  counted : listBrackets false ts = w + listBrackets false rest

/-! ## Rows of tokens -/

theorem EndsOperand.snoc (ht : t.endsOperand = true) (pre : List Token) : EndsOperand (pre ++ [t]) :=
  ⟨pre, t, rfl, ht⟩

theorem EndsOperand.notDot (h : EndsOperand pre) : pre.getLast? ≠ some .dot := by
  obtain ⟨before, t, rfl, ht⟩ := h
  rw [List.getLast?_concat]
  rintro ⟨⟩
  cases ht

theorem EndsProjection.endsOperand (h : EndsProjection arity? pre) : EndsOperand pre := by
  cases h with
  | values => exact .snoc rfl _
  | flatten => exact .snoc rfl _
  | @list before _ => exact ⟨before ++ [.openBracket, .star], .closeBracket, by simp, rfl⟩
  | @slice before start stop step =>
    exact ⟨before ++ .openBracket :: (numberTokens start ++ .colon :: (numberTokens stop ++ stepTokens step)),
      .closeBracket, by simp, rfl⟩
  | @filter before inside => exact ⟨before ++ .filter :: inside, .closeBracket, by simp, rfl⟩

theorem Opened.snoc (ht : t.endsOperand = false) (hdot : t ≠ .dot) (pre : List Token) : Opened (pre ++ [t]) :=
  ⟨pre, t, rfl, ht, hdot⟩

theorem Fine.of_snoc (ht : t.endsOperand = false) : Fine arity? (pre ++ [t]) post := by
  rintro ⟨before, u, heq, hu⟩
  obtain ⟨-, htu⟩ := List.append_inj' heq rfl
  cases htu
  rw [ht] at hu
  cases hu

theorem Fine.of_startsBracket (h : startsBracket post = true) : Fine arity? pre post := by
  intro _ hlist
  rw [h] at hlist
  cases hlist

theorem Opened.entry (h : Opened pre) : Entry arity? ts pre := by
  obtain ⟨before, t, rfl, ht, hdot⟩ := h
  exact fun post _ => ⟨by simpa using hdot, .of_snoc ht⟩

theorem Entry.of_projection (h : EndsProjection arity? pre) : Entry arity? ts pre :=
  fun _ _ => ⟨h.endsOperand.notDot, fun _ _ => h⟩

theorem Entry.of_other (ht : t ≠ .openBracket) : Entry arity? (t :: ts) pre := by
  rintro post ⟨⟩
  exact absurd rfl ht

theorem listBrackets_cons (ht : t.isPlain = true) (d : Bool) (ts : List Token) :
    listBrackets d (t :: ts) = listBrackets false ts := by
  cases t <;> first | rfl | cases ht

theorem listBrackets_append {seg : List Token} (hseg : ∀ t ∈ seg, t.isPlain = true) :
    listBrackets false (seg ++ ts) = listBrackets false ts := by
  induction seg with
  | nil => rfl
  | cons t seg ih =>
    obtain ⟨ht, hseg⟩ := List.forall_mem_cons.1 hseg
    rw [List.cons_append, listBrackets_cons ht, ih hseg]

/-! ## Spans -/

theorem Covered.cons (ht : t = .openBracket → Fine arity? pre ts)
    (h : Covered arity? (pre ++ [t]) ts rest) : Covered arity? pre (t :: ts) rest := by
  intro a b heq hle
  cases a with
  | nil =>
    cases heq
    rw [List.append_nil]
    exact ht rfl
  | cons u a =>
    cases heq
    simpa using h a b rfl hle

/-- Nothing is in front of `ts`. -/
theorem Covered.refl (pre ts : List Token) : Covered arity? pre ts ts := by
  intro a b heq hle
  rw [heq, List.length_append, List.length_cons] at hle
  omega

/-- Among plain tokens there is no bracket. -/
theorem Covered.of_plain {seg : List Token} (hseg : ∀ t ∈ seg, t.isPlain = true) (pre : List Token) :
    Covered arity? pre (seg ++ ts) ts := by
  induction seg generalizing pre with
  | nil => exact .refl pre ts
  | cons t seg ih =>
    obtain ⟨ht, hseg⟩ := List.forall_mem_cons.1 hseg
    refine (ih hseg _).cons ?_
    rintro rfl
    cases ht

theorem Covered.trans {seg : List Token} (h : Covered arity? pre (seg ++ mid) mid)
    (h' : Covered arity? (pre ++ seg) mid rest) : Covered arity? pre (seg ++ mid) rest := by
  intro a b heq hle
  rcases List.append_eq_append_iff.1 heq with ⟨a', rfl, hmid⟩ | ⟨_ | ⟨u, c⟩, rfl, hb⟩
  · rw [← List.append_assoc]
    exact h' a' b hmid hle
  · rw [List.nil_append] at hb
    simpa using h' [] b hb.symm hle
  · cases hb
    exact h a _ heq (by simp)

theorem Span.imp (hQ : ∀ pre, Q pre → Q' pre) (h : Span arity? Q' w ts rest) :
    Span arity? Q w ts rest := by
  obtain ⟨⟨seg, heq, hends⟩, hcovered, hcounted⟩ := h
  exact ⟨⟨seg, heq, fun pre hpre => hends pre (hQ pre hpre)⟩,
    fun pre hpre => hcovered pre (hQ pre hpre), hcounted⟩

/-- Nothing is read behind an operand. -/
theorem Span.refl (hQ : ∀ pre, Q pre → EndsOperand pre) : Span arity? Q 0 ts ts := by
  exact ⟨⟨[], rfl, fun pre hpre => by simpa using hQ pre hpre⟩, fun pre _ => .refl pre ts, by simp⟩

/-- One part behind another. -/
theorem Span.append (h : Span arity? Q v ts mid) (h' : Span arity? Q' w mid rest)
    (hQ : ∀ pre seg, Q pre → ts = seg ++ mid → EndsOperand (pre ++ seg) → Q' (pre ++ seg)) :
    Span arity? Q (v + w) ts rest := by
  obtain ⟨⟨seg, rfl, hends⟩, hcovered, hcounted⟩ := h
  obtain ⟨⟨seg', rfl, hends'⟩, hcovered', hcounted'⟩ := h'
  have hmid : ∀ pre, Q pre → Q' (pre ++ seg) := fun pre hpre => hQ pre seg hpre rfl (hends pre hpre)
  refine ⟨⟨seg ++ seg', by simp, fun pre hpre => ?_⟩, fun pre hpre => ?_, by omega⟩
  · rw [← List.append_assoc]
    exact hends' _ (hmid pre hpre)
  · exact (hcovered pre hpre).trans (hcovered' _ (hmid pre hpre))

/-- One part behind another that ends with an operand. -/
theorem Span.chain (h : Span arity? Q v ts mid) (h' : Span arity? EndsOperand w mid rest) :
    Span arity? Q (v + w) ts rest := h.append h' fun _ _ _ _ hends => hends

/-- A token in front of a part. -/
theorem Span.cons (hfine : ∀ pre, Q pre → t = .openBracket → Fine arity? pre ts)
    (hcount : listBrackets false (t :: ts) = v + listBrackets false ts)
    (hQ : ∀ pre, Q pre → Q' (pre ++ [t])) (h : Span arity? Q' w ts rest) :
    Span arity? Q (v + w) (t :: ts) rest := by
  obtain ⟨⟨seg, rfl, hends⟩, hcovered, hcounted⟩ := h
  refine ⟨⟨t :: seg, rfl, fun pre hpre => ?_⟩, fun pre hpre => ?_, by omega⟩
  · simpa using hends _ (hQ pre hpre)
  · exact (hcovered _ (hQ pre hpre)).cons (hfine pre hpre)

/-- A plain token in front of a part. -/
theorem Span.token (t : Token) (ht : t.isPlain = true) (hQ : ∀ pre, Q pre → Q' (pre ++ [t]))
    (h : Span arity? Q' w ts rest) : Span arity? Q w (t :: ts) rest := by
  have hbracket : t ≠ .openBracket := by
    rintro rfl
    cases ht
  have hcount : listBrackets false (t :: ts) = 0 + listBrackets false ts := by
    rw [listBrackets_cons ht, Nat.zero_add]
  simpa using h.cons (fun _ _ heq => absurd heq hbracket) hcount hQ

/-- A token that is an operand, or ends one, in front of anything. -/
theorem Span.last (t : Token) (ht : t.endsOperand = true) (Q : List Token → Prop) (ts : List Token) :
    Span arity? Q 0 (t :: ts) ts := by
  have hplain : t.isPlain = true := by cases t <;> first | rfl | cases ht
  exact .token t hplain (fun pre _ => EndsOperand.snoc ht pre) (.refl fun _ h => h)

/-- A dot and the bracket of a list in front of what is read behind them. -/
theorem Span.dotBracket (Q : List Token → Prop) (h : Span arity? Opened w ts rest) :
    Span arity? Q (1 + w) (.dot :: .openBracket :: ts) rest := by
  obtain ⟨⟨seg, rfl, hends⟩, hcovered, hcounted⟩ := h
  have hopened : ∀ pre, Opened (pre ++ [.dot] ++ [.openBracket]) := fun _ => .snoc rfl (by simp) _
  refine ⟨⟨.dot :: .openBracket :: seg, rfl, fun pre _ => ?_⟩, fun pre _ => ?_, ?_⟩
  · simpa using hends _ (hopened pre)
  · exact ((hcovered _ (hopened pre)).cons fun _ => .of_snoc rfl).cons (by simp)
  · simp only [listBrackets, Bool.true_or, if_true]
    omega

/-- A dot in front of a step. -/
theorem Span.dot (ht : t ≠ .openBracket) (hQ : ∀ pre, Q pre → Q' (pre ++ [.dot]))
    (h : Span arity? Q' w (t :: ts) rest) : Span arity? Q w (.dot :: t :: ts) rest := by
  have hcount : listBrackets false (.dot :: t :: ts) = 0 + listBrackets false (t :: ts) := by
    rw [Nat.zero_add, listBrackets]
    cases t <;> first | rfl | contradiction
  simpa using h.cons (by simp) hcount hQ

/-- The tokens of an index, of a slice or of `[*]` in front of a part. -/
theorem Span.bracket (seg : List Token) (hseg : ∀ t ∈ seg, t.isPlain = true)
    (hstarts : startsBracket (seg ++ ts) = true) (hQ : ∀ pre, Q pre → Q' (pre ++ .openBracket :: seg))
    (h : Span arity? Q' w ts rest) : Span arity? Q w (.openBracket :: (seg ++ ts)) rest := by
  obtain ⟨⟨seg', rfl, hends⟩, hcovered, hcounted⟩ := h
  refine ⟨⟨.openBracket :: (seg ++ seg'), by simp, fun pre hpre => ?_⟩, fun pre hpre => ?_, ?_⟩
  · simpa using hends _ (hQ pre hpre)
  · have hplain : Covered arity? (pre ++ [.openBracket]) (seg ++ (seg' ++ rest)) (seg' ++ rest) :=
      .of_plain hseg _
    have hbehind := hcovered _ (hQ pre hpre)
    exact (hplain.trans (by simpa using hbehind)).cons fun _ => .of_startsBracket hstarts
  · simp only [listBrackets, hstarts, listBrackets_append hseg]
    simpa using hcounted

/-! ## What is read -/

theorem Sequence.span {α : Type} {item : List Token → α → List Token → Prop} {close : Closing}
    {weight : α → Nat} {as : List α}
    (hitem : ∀ {ts a rest}, item ts a rest → Span arity? Opened (weight a) ts rest)
    (h : Sequence item close ts as rest) :
    Span arity? Opened (as.foldr (fun a n => weight a + n) 0) ts rest := by
  induction h with
  | @last ts a t rest h hclose =>
    have ht : t.endsOperand = true := by cases close <;> cases t <;> first | rfl | cases hclose
    exact (hitem h).chain (.last t ht _ _)
  | more h _ _ ih =>
    rw [List.foldr_cons]
    exact (hitem h).chain (ih.token .comma rfl fun pre _ => .snoc rfl (by simp) pre)

section Parts

variable (hS : ∀ {power ts e rest}, S power ts e rest →
  Reads arity? power ts e rest ∧ Span arity? (Entry arity? ts) e.lists ts rest)
include hS

/-- An expression behind a token that opens one. -/
theorem span_behind (hplain : t.isPlain = true) (ht : t.endsOperand = false) (Q : List Token → Prop)
    (h : S power ts e rest) : Span arity? Q e.lists (t :: ts) rest := by
  have hdot : t ≠ .dot := by
    rintro rfl
    cases hplain
  exact ((hS h).2.imp fun _ => Opened.entry).token t hplain fun pre _ => .snoc ht hdot pre

theorem span_list {es : List Expr} {close : Closing} (h : Sequence (S 0) close ts es rest) :
    Span arity? Opened (Expr.listsItems es) ts rest := by
  rw [Expr.listsItems_eq]
  exact h.span fun h => (hS h).2.imp fun _ => Opened.entry

theorem Named.span {p : String × Expr} (h : Named S ts p rest) :
    Span arity? Opened p.2.lists ts rest := by
  cases h with
  | identifier h =>
    exact (span_behind hS (t := .colon) rfl rfl (fun _ => True) h).token _ rfl fun _ _ => trivial
  | quoted h =>
    exact (span_behind hS (t := .colon) rfl rfl (fun _ => True) h).token _ rfl fun _ _ => trivial

theorem span_hash {ps : List (String × Expr)} (h : Sequence (Named S) .brace ts ps rest)
    (Q : List Token → Prop) : Span arity? Q (Expr.multiHash ps).lists (.openBrace :: ts) rest := by
  rw [Expr.lists, Expr.listsPairs_eq]
  exact (h.span fun h => h.span hS).token .openBrace rfl fun pre _ => .snoc rfl (by simp) pre

theorem AfterDot.span (h : AfterDot S power ts e rest) (Q : List Token → Prop) :
    Span arity? Q e.lists (.dot :: ts) rest := by
  cases h with
  | list h => exact .dotBracket Q (span_list hS h)
  | hash h => exact (span_hash hS h fun _ => True).dot (by simp) fun _ _ => trivial
  | @step t _ _ _ ht h =>
    have hbracket : t ≠ .openBracket := by
      rintro rfl
      cases ht
    exact (hS h).2.dot hbracket fun _ _ => .of_other hbracket

theorem Projected.span (h : Projected S power ts e rest) :
    Span arity? (EndsProjection arity?) e.lists ts rest := by
  cases h with
  | none => exact .refl fun _ => EndsProjection.endsOperand
  | dot h => exact h.span hS _
  | bracket h => exact (hS h).2.imp fun _ => Entry.of_projection
  | filter h => exact (hS h).2.imp fun _ => Entry.of_projection

/-- What stands behind the bracket of an index, a slice or `[*]` adds lists to those of the left side. -/
theorem Bracketed.span (h : Bracketed S lhs ts e rest) : ∃ w, e.lists = lhs.lists + w ∧
    Span arity? (fun pre => pre.getLast? ≠ some .dot) w (.openBracket :: ts) rest := by
  cases h with
  | @index n =>
    have hindexed : (indexed lhs n).lists = lhs.lists + 0 := by
      unfold indexed
      split <;> rfl
    refine ⟨0, hindexed, Span.bracket [.number n, .closeBracket] (by simp [Token.isPlain]) rfl ?_
      (.refl fun _ h => h)⟩
    exact fun pre _ => ⟨pre ++ [.openBracket, .number n], .closeBracket, by simp, rfl⟩
  | list h =>
    exact ⟨_, rfl, Span.bracket [.star, .closeBracket] (by simp [Token.isPlain]) rfl (fun _ => .list) (h.span hS)⟩
  | @slice start stop step ts rhs _ _ h =>
    have hnumber : ∀ n, ∀ t ∈ numberTokens n, t.isPlain = true := by
      rintro (_ | n) t ht <;> simp_all [numberTokens, Token.isPlain]
    have hstep : ∀ t ∈ stepTokens step, t.isPlain = true := by
      rcases step with _ | step
      · simp [stepTokens]
      · exact List.forall_mem_cons.2 ⟨rfl, hnumber step⟩
    have hspan := Span.bracket (Q := fun pre => pre.getLast? ≠ some .dot)
      (numberTokens start ++ .colon :: (numberTokens stop ++ (stepTokens step ++ [.closeBracket])))
      ?_ ?_ (fun _ _ => .slice) (h.span hS)
    · exact ⟨_, rfl, by simpa using hspan⟩
    · simp only [List.forall_mem_append, List.forall_mem_cons]
      exact ⟨hnumber start, rfl, hnumber stop, hstep, rfl, by simp⟩
    · cases start <;> rfl

theorem Filtered.span (h : Filtered S lhs ts e rest) (Q : List Token → Prop) :
    ∃ w, e.lists = lhs.lists + w ∧ Span arity? Q w (.filter :: ts) rest := by
  cases h with
  | @mk predicate mid rhs _ hpredicate hrhs =>
    refine ⟨predicate.lists + rhs.lists, rfl, ?_⟩
    obtain ⟨t, body, rfl, hlocal⟩ := (hS hpredicate).1.local
    have hinside : Reads arity? 0 (t :: body) predicate [] := by simpa using hlocal [] (Nat.zero_le _)
    have hopening : Span arity? Q predicate.lists (.filter :: t :: (body ++ .closeBracket :: mid)) mid :=
      (span_behind hS rfl rfl Q hpredicate).chain (.last .closeBracket rfl _ _)
    refine hopening.append (hrhs.span hS) fun pre seg _ heq _ => ?_
    have hseg : seg ++ mid = .filter :: ((t :: body) ++ [.closeBracket]) ++ mid := by
      rw [← heq]
      simp
    rw [List.append_cancel_right hseg]
    exact .filter hinside

theorem Arguments.span {args : List Expr} (h : Arguments S ts args rest) :
    Span arity? Opened (Expr.listsItems args) ts rest := by
  cases h with
  | none => exact .last .closeParen rfl _ _
  | some _ h => exact span_list hS h

theorem Primary.span (h : Primary arity? S ts e rest) : Span arity? (Entry arity? ts) e.lists ts rest := by
  cases h with
  | current | identifier | quoted | raw | literal => exact .last _ rfl _ _
  | call _ _ h =>
    have hparen : Span arity? (fun _ => True) _ _ rest :=
      (h.span hS).token .openParen rfl fun pre _ => .snoc rfl (by simp) pre
    exact hparen.token _ rfl fun _ _ => trivial
  | values h =>
    rw [Expr.lists, Expr.lists, Nat.zero_add]
    exact (h.span hS).token .star rfl fun _ _ => .values
  | bracketed h =>
    obtain ⟨w, hw, hspan⟩ := h.span hS
    rw [hw, Expr.lists, Nat.zero_add]
    exact hspan.imp fun pre hpre => (hpre _ rfl).1
  | @multiList ts _ _ hbracket h =>
    refine (span_list hS h).cons (fun pre hpre _ => (hpre ts rfl).2) ?_ fun pre _ => .snoc rfl (by simp) pre
    simp [listBrackets, hbracket]
  | flatten h =>
    rw [Expr.lists, Expr.lists, Nat.zero_add]
    exact (h.span hS).token .flatten rfl fun _ _ => .flatten
  | filter h =>
    obtain ⟨w, hw, hspan⟩ := h.span hS (Entry arity? _)
    rwa [hw, Expr.lists, Nat.zero_add]
  | multiHash h => exact span_hash hS h _
  | reference h | not h =>
    rw [Expr.lists]
    exact span_behind hS rfl rfl _ h
  | group h => exact (span_behind hS rfl rfl _ h).chain (.last .closeParen rfl _ _)

theorem Extension.span (h : Extension S left ts e rest) :
    ∃ w, e.lists = left.lists + w ∧ Span arity? EndsOperand w ts rest := by
  cases h with
  | values h =>
    have hstar := (h.span hS).token (Q := fun _ => True) .star rfl fun _ _ => .values
    exact ⟨_, rfl, hstar.dot (by simp) fun _ _ => trivial⟩
  | subexpr _ h => exact ⟨_, rfl, h.span hS _⟩
  | bracketed h =>
    obtain ⟨w, hw, hspan⟩ := h.span hS
    exact ⟨w, hw, hspan.imp fun _ => EndsOperand.notDot⟩
  | flatten h => exact ⟨_, rfl, (h.span hS).token .flatten rfl fun _ _ => .flatten⟩
  | filter h => exact h.span hS _
  | pipe h => exact ⟨_, rfl, span_behind hS rfl rfl _ h⟩
  | @resembles pattern =>
    have hpattern : Span arity? (fun _ => True) 0 (.raw pattern :: rest) rest := .last _ rfl _ _
    exact ⟨0, rfl, hpattern.token .resembles rfl fun _ _ => trivial⟩
  | @binary t _ _ _ _ hop h =>
    refine ⟨_, rfl, span_behind hS ?_ ?_ _ h⟩
    all_goals cases t <;> first | rfl | cases hop

end Parts

/-- What is read as an expression ends with an operand, has only fine brackets, and has one that opens a
list for each list in the expression. -/
theorem span_of_reads (h : Reads arity? power ts e rest) : Span arity? (Entry arity? ts) e.lists ts rest := by
  refine reads_induction (P := fun _ ts e rest => Span arity? (Entry arity? ts) e.lists ts rest)
    (C := fun _ ts left mid => Span arity? (Entry arity? ts) left.lists ts mid) ?start ?step ?stop h
  case start => exact fun h => h.span fun h => h
  case step =>
    intro power ts left mid left' mid' _ hC _ h
    obtain ⟨w, hw, hspan⟩ := h.span fun h => h
    rw [hw]
    exact hC.chain hspan
  case stop => exact fun hC _ => hC

/-! ## Lists behind the opening of a projection -/

/-- A list that is read alone is the right side of the projection in front of it, if that is a projection
without a right side that is not in parentheses. -/
theorem reads_list_behind_projection {pre : List Token} {es : List Expr} {e' : Expr} (h : Reads arity? 0 pre e [])
    (hclose : pre.getLast? ≠ some .closeParen) (hlist : Reads arity? 0 (.openBracket :: ts) (.multiList es) [])
    (he : e.withSide? (.multiList es) = some e') : Reads arity? 0 (pre ++ .openBracket :: ts) e' [] := by
  have hside : ∀ power, Projected (Reads arity?) power (.openBracket :: ts) (.multiList es) [] :=
    fun power => .bracket (reads_iff.2 ⟨.start (hlist.primary (.inr rfl)), Nat.zero_le power⟩)
  exact reads_iff.2 ⟨h.reaches.with_side hside he hclose, Nat.le_refl 0⟩

/-- So is a list of one expression directly behind the opening of a projection. -/
theorem reads_list_behind_opening {kind : Projection} {opening : List Token} (h : Opening kind opening)
    (hbody : Reads arity? 0 ts e []) (hlist : startsBracket (ts ++ [.closeBracket]) = false) :
    Reads arity? 0 (opening ++ .openBracket :: (ts ++ [.closeBracket]))
      (.project kind .current (.multiList [e])) [] := by
  have halone : Reads arity? 0 (.openBracket :: (ts ++ [.closeBracket])) (.multiList [e]) [] :=
    reads_iff.2 ⟨.start (.multiList hlist (.one hbody)), Nat.zero_le 0⟩
  exact reads_list_behind_projection h.reads h.getLast?_ne halone rfl

end Grammar

/-! ## Texts -/

/-- **Where lists of expressions stand.**  A text that is read has one bracket that opens a list for each
list in its expression, and where such a bracket directly follows the end of an operand, that is the
opening of a projection.  Directly behind every such opening of the current value a list of any
expression is accepted, as the projection's right side; and so is a list of any number of expressions
directly behind a text that is a projection or a filter of any operand, has no right side yet and is not
in parentheses. -/
theorem Expr.list_places_of_parse (arity? : String → Option Arity) :
    (∀ limit text ts e, Expr.parse arity? limit text = .ok e → Scans text.toList ts →
      Grammar.listBrackets false ts = e.lists ∧
      ∀ pre post, ts = pre ++ .openBracket :: post → Grammar.startsBracket post = false →
        Grammar.EndsOperand pre → Grammar.EndsProjection arity? pre) ∧
    (∀ kind opening limit ts e, Grammar.Opening kind opening → Grammar.whole arity? limit ts = .ok e →
      Grammar.startsBracket (ts ++ [.closeBracket]) = false → ∃ bound, ∀ limit' ≥ bound,
        Grammar.whole arity? limit' (opening ++ .openBracket :: (ts ++ [.closeBracket])) =
          .ok (.project kind .current (.multiList [e]))) ∧
    (∀ limit pre ts e es e', Grammar.whole arity? limit pre = .ok e → pre.getLast? ≠ some .closeParen →
      Grammar.whole arity? limit (.openBracket :: ts) = .ok (.multiList es) →
      e.withSide? (.multiList es) = some e' → ∃ bound, ∀ limit' ≥ bound,
        Grammar.whole arity? limit' (pre ++ .openBracket :: ts) = .ok e') := by
  refine ⟨?_, ?_, ?_⟩
  · intro limit text ts e h hts
    obtain ⟨us, hus, hread⟩ := Expr.parse_ok.1 h
    cases hus.functional hts
    obtain ⟨_, hcovered, hcounted⟩ := Grammar.span_of_reads ⟨_, _, hread⟩
    refine ⟨hcounted, fun pre post heq hlist hends => ?_⟩
    have hentry : Grammar.Entry arity? ts [] := by
      refine fun _ _ => ⟨by simp, ?_⟩
      rintro ⟨before, t, heq, _⟩
      simp at heq
    exact hcovered [] hentry pre post heq (Nat.zero_le _) hends hlist
  · intro kind opening limit ts e hopening h hlist
    obtain ⟨bound, hbound⟩ := (Grammar.reads_list_behind_opening hopening
      ⟨_, _, Grammar.whole_ok.1 h⟩ hlist).within
    exact ⟨bound, fun limit' hle => Grammar.whole_ok.2 (hbound limit' hle limit')⟩
  · intro limit pre ts e es e' h hclose hlist he
    obtain ⟨bound, hbound⟩ := (Grammar.reads_list_behind_projection ⟨_, _, Grammar.whole_ok.1 h⟩ hclose
      ⟨_, _, Grammar.whole_ok.1 hlist⟩ he).within
    exact ⟨bound, fun limit' hle => Grammar.whole_ok.2 (hbound limit' hle limit')⟩

/-- In the first text the list directly follows a star, which opens a projection; in the second one, a filter. -/
theorem Expr.list_behind_values :
    let arity? := (Library.functions .plain true).arity?
    let list : List Token := [.identifier "a", .comma, .identifier "b", .closeBracket]
    let filter : List Token := [.identifier "c", .filter, .identifier "d", .closeBracket]
    Expr.parse arity? 256 "*[a, b]" =
      .ok (.project .values .current (.multiList [.identifier "a", .identifier "b"])) ∧
    Grammar.EndsProjection arity? [.star] ∧
    (∃ bound, ∀ limit ≥ bound, Grammar.whole arity? limit ([.star] ++ .openBracket :: list) =
      .ok (.project .values .current (.multiList [.identifier "a", .identifier "b"]))) ∧
    ∃ bound, ∀ limit ≥ bound, Grammar.whole arity? limit (filter ++ .openBracket :: list) =
      .ok (.filter (.identifier "d") (.identifier "c") (.multiList [.identifier "a", .identifier "b"])) := by
  intro arity? list filter
  have hparse : Expr.parse arity? 256 "*[a, b]" =
      .ok (.project .values .current (.multiList [.identifier "a", .identifier "b"])) := by
    cbv
  have hscans : Scans "*[a, b]".toList ([.star] ++ .openBracket :: list) := Scans.ofText.1 ⟨_, by cbv, rfl⟩
  have hlist : Grammar.whole arity? 256 (.openBracket :: list) =
      .ok (.multiList [.identifier "a", .identifier "b"]) := by cbv
  have hstar : Grammar.whole arity? 256 [.star] = .ok (.project .values .current .current) := by cbv
  have hfilter : Grammar.whole arity? 256 filter = .ok (.filter (.identifier "d") (.identifier "c") .current) := by
    cbv
  obtain ⟨hplaces, -, haccepted⟩ := Expr.list_places_of_parse arity?
  refine ⟨hparse, ?_, ?_, ?_⟩
  · exact (hplaces 256 _ _ _ hparse hscans).2 [.star] _ rfl rfl ⟨[], .star, rfl, rfl⟩
  · exact haccepted 256 _ _ _ _ _ hstar (by simp) hlist rfl
  · exact haccepted 256 _ _ _ _ _ hfilter (by simp [filter]) hlist rfl

end JsonQuery
