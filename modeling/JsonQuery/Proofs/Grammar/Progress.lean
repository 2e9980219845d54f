import JsonQuery.Proofs.Grammar.Taking

/-!
# The reader always gets on

Taking leaves the cursor at the end once it is there, so nothing but a fault ends a loop there.  Every loop and every
nested expression starts behind a token that has been taken before, and every step takes one or ends with a fault; so
more fuel than there are tokens is fuel enough, whatever the limit of nesting is.

* `Run.follows_items`, `Run.follows_slots` — the loops.
* `Run.follows_primary`, `Run.follows_extend` — how an expression starts, and how a token takes it further.
* `Run.follows_expression` — the reader with a cursor does what the grammar does.
* `whole_progress` — it ends, within the tokens and within as many steps as there are tokens.
-/

namespace JsonQuery

namespace Grammar

namespace Run

variable {α : Type} {ts toks rest : List Token} {t : Token} {c c' : Cursor} {low : Nat}

/-! ## Loops -/

/-- What stands behind an item and is no comma ends the sequence, or is refused. -/
theorem follows_close {k : Taken → Run (List α)} {close : Closing} {a : α} (h : c.At ts low (t :: rest))
    (hk : ∀ place, k ⟨some t, place⟩ =
      if close.isEnd t then pure [a] else refuseTaken ts ⟨some t, place⟩ (.expectedCommaOr close.token)) :
    Follows ts c.place (advance ts >>= k) c
      (if close.isEnd t then .ok ([a], rest) else Grammar.refuse (.expectedCommaOr close.token) (t :: rest)) := by
  by_cases hend : close.isEnd t
  · rw [if_pos hend]
    refine follows_advance h fun h' => ?_
    rw [hk, if_pos hend]
    exact follows_pure (h'.mono (Nat.le_succ _)) _
  · rw [if_neg hend]
    exact follows_advance_refused h _ fun place => (hk place).trans (if_neg hend)

/-- Items are read to their end. -/
theorem follows_items {item : Run α} {item' : List Token → Parsed α} (close : Closing)
    (hitem : ∀ (c : Cursor) toks, c.At ts low toks → Follows ts c.place item c (item' toks)) (fuel : Nat)
    (h : c.At ts low toks) (hfuel : ts.length < c.place + fuel) :
    Follows ts c.place (items ts item close fuel) c (Grammar.items item' close toks) := by
  induction fuel generalizing c toks with
  | zero => exact absurd h.sound.place (Nat.not_le.2 hfuel)
  | succ fuel ih =>
    rw [items, Grammar.items]
    refine (hitem c toks h).bind (fun fault hread => by rw [hread]) fun a after c₁ hread h₁ => ?_
    have hplace := h₁.low_le
    rw [hread]
    cases after with
    | nil => exact follows_advance_refused h₁ _ fun _ => rfl
    | cons t rest =>
      cases t with
      | comma =>
        refine follows_advance h₁ fun h₂ => ?_
        have h₂' := h₂.mono (Nat.succ_le_succ hplace)
        have hmore := ih (h₂'.mono (Nat.le_succ_of_le h.low_le)) (by have := h₂'.low_le; omega)
        dsimp only
        rw [if_pos (h.length_lt h₂')]
        exact (hmore.mono (Nat.le_succ_of_le hplace)).mapped (fun _ h => by rw [h]) fun _ _ h => by rw [h]
      | _ => exact (follows_close h₁ fun _ => rfl).mono hplace

/-- What the loop over the parts of an index or a slice reads. -/
def readSlots : List Token → Slots → Parsed Slots
  | .number n :: rest, s =>
    if s.here.isNone then readSlots rest (s.put n (.number n :: rest))
    else Grammar.refuse .inSlice (.number n :: rest)
  | .colon :: rest, s =>
    if s.part < 2 then readSlots rest { s with part := s.part + 1 }
    else Grammar.refuse .inSlice (.colon :: rest)
  | .closeBracket :: rest, s => .ok (s, rest)
  | toks, _ => Grammar.refuse .inSlice toks

theorem follows_slots (fuel : Nat) (s : Slots) (h : c.At ts low toks) (hfuel : ts.length < c.place + fuel) :
    Follows ts c.place (slots ts fuel s) c (readSlots toks s) := by
  induction fuel generalizing c toks low s with
  | zero => exact absurd h.sound.place (Nat.not_le.2 hfuel)
  | succ fuel ih =>
    rw [slots]
    cases toks with
    | nil => exact follows_advance_refused h _ fun _ => rfl
    | cons t rest =>
      have hbehind : ts.length < (c.next t).place + fuel := by
        show ts.length < c.place + 1 + fuel
        omega
      cases t with
      | number n =>
        by_cases hempty : s.here.isNone = true
        · refine follows_advance h fun h₁ => ?_
          have hmore := ih (s.put n (ts.drop c.place)) h₁ hbehind
          rw [h.drop] at hmore
          simp only [readSlots, if_pos hempty, h.drop]
          exact hmore.mono (Nat.le_succ _)
        · rw [readSlots, if_neg hempty]
          exact follows_advance_refused h _ fun _ => if_neg hempty
      | colon =>
        by_cases hpart : s.part < 2
        · refine follows_advance h fun h₁ => ?_
          have hmore := ih { s with part := s.part + 1 } h₁ hbehind
          simp only [readSlots, if_pos hpart]
          exact hmore.mono (Nat.le_succ _)
        · rw [readSlots, if_neg hpart]
          exact follows_advance_refused h _ fun _ => if_neg hpart
      | closeBracket =>
        refine follows_advance h fun h₁ => ?_
        exact follows_pure (h₁.mono (Nat.le_succ _)) s
      | _ => exact follows_advance_refused h _ fun _ => rfl

/-! ## The parts of a slice -/

/-- A part with the number that stands at these tokens, if there is one. -/
def Slots.fill (s : Slots) (n : Option Int64) (whole : List Token) : Slots :=
  match n with
  | some n => s.put n whole
  | none => s

theorem Slots.part_put (s : Slots) (n : Int64) (whole : List Token) : (s.put n whole).part = s.part := by
  unfold Slots.put
  split <;> rfl

theorem Slots.here_put (s : Slots) (n : Int64) (whole : List Token) : (s.put n whole).here = some n := by
  obtain ⟨part, start, stop, step, stepAt⟩ := s
  match part with
  | 0 | 1 | _ + 2 => rfl

/-- A part is a number or nothing, and what stands behind that. -/
theorem readSlots_part (toks : List Token) {s : Slots} (hempty : s.here = none) :
    readSlots toks s =
      match number? toks with
      | (n, .closeBracket :: rest) => .ok (s.fill n toks, rest)
      | (n, .colon :: rest) =>
        if s.part < 2 then readSlots rest { s.fill n toks with part := s.part + 1 }
        else Grammar.refuse .inSlice (.colon :: rest)
      | (_, rest) => Grammar.refuse .inSlice rest := by
  cases toks with
  | nil => rfl
  | cons t rest =>
    cases t with
    | number n =>
      rw [readSlots, hempty, if_pos Option.isNone_none]
      cases rest with
      | nil => rfl
      | cons u rest =>
        cases u with
        | number m =>
          -- a second number is refused
          rw [readSlots, Slots.here_put, if_neg nofun]
          rfl
        | colon =>
          rw [readSlots, Slots.part_put]
          rfl
        | _ => rfl
    | _ => rfl

/-- Parts are not taken back. -/
theorem part_le_of_readSlots {s s' : Slots} (h : readSlots toks s = .ok (s', rest)) : s.part ≤ s'.part := by
  fun_induction readSlots toks s with
  | case1 n more s hempty ih => exact Nat.le_trans (Nat.le_of_eq (s.part_put n _).symm) (ih h)
  | case3 more s hpart ih => exact Nat.le_trans (Nat.le_succ _) (ih h)
  | case5 more s =>
    cases h
    exact Nat.le_refl _
  | case2 | case4 | case6 => cases h

/-- The slice of these parts, whose right side follows. -/
def sliced (sub : Reader) (lhs : Expr) (s : Slots) (rest : List Token) : Parsed Expr :=
  match if s.step = some 0 then s.stepAt else none with
  | some whole => .error ⟨.zeroStep, whole⟩
  | none => Grammar.project sub (.slice ⟨s.start, s.stop, s.step.getD 1⟩) Token.star.power lhs rest

theorem sliced_of_ne {sub : Reader} {lhs : Expr} {s : Slots} (hzero : s.step ≠ some 0) :
    sliced sub lhs s rest =
      Grammar.project sub (.slice ⟨s.start, s.stop, s.step.getD 1⟩) Token.star.power lhs rest := by
  rw [sliced, if_neg hzero]

/-- A slice is read part by part. -/
theorem sliceFrom_eq (sub : Reader) (lhs : Expr) (start : Option Int64) (rest : List Token) :
    sliceFrom sub lhs start (.colon :: rest) =
      match readSlots rest ⟨1, start, none, none, none⟩ with
      | .error fault => .error fault
      | .ok (s, rest) => sliced sub lhs s rest := by
  rw [sliceFrom, readSlots_part rest rfl]
  rcases number? rest with ⟨stop, after⟩
  cases after with
  | nil => rfl
  | cons t after =>
    cases t with
    | closeBracket => cases stop <;> rfl
    | colon =>
      have hstop : Slots.fill ⟨1, start, none, none, none⟩ stop rest = ⟨1, start, stop, none, none⟩ := by
        cases stop <;> rfl
      simp only [hstop]
      rw [if_pos (by decide), readSlots_part after rfl]
      rcases number? after with ⟨step, behind⟩
      cases behind with
      | nil => rfl
      | cons u behind =>
        cases u with
        | closeBracket =>
          by_cases hzero : step = some 0
          · subst hzero
            rfl
          · simp only [if_neg hzero]
            cases step with
            | none => rfl
            | some n =>
              have hslice : Slots.step ⟨2, start, stop, some n, some after⟩ ≠ some 0 := hzero
              exact (sliced_of_ne hslice).symm
        | _ => rfl
    | _ => rfl

/-- An index has one part. -/
theorem follows_index {sub : Nat → Run Expr} {fuel : Nat} {n : Int64} {lhs : Expr} (h : c.At ts low toks)
    (hfuel : ts.length < c.place + fuel)
    (hslots : readSlots toks .empty = .ok (⟨0, some n, none, none, none⟩, rest)) :
    Follows ts c.place (indexOrSlice ts sub fuel lhs) c (.ok (indexed lhs n, rest)) := by
  have hread := follows_slots fuel .empty h hfuel
  rw [hslots] at hread
  refine hread.bind (fun fault h => by cases h) fun s rest c₁ hread h₁ => ?_
  cases hread
  exact follows_pure h₁ _

/-- What is no part of an index or a slice is refused. -/
theorem follows_unended {sub : Nat → Run Expr} {fuel : Nat} {fault : Fault} {lhs : Expr} (h : c.At ts low toks)
    (hfuel : ts.length < c.place + fuel) (hslots : readSlots toks .empty = .error fault) :
    Follows ts c.place (indexOrSlice ts sub fuel lhs) c (.error fault) := by
  have hread := follows_slots fuel .empty h hfuel
  rw [hslots] at hread
  refine hread.bind (fun fault' h => ?_) nofun
  cases h
  rfl

/-! ## Parts of the grammar -/

theorem power_next (toks : List Token) : (toks[0]?.map Token.power).getD 0 = Token.nextPower toks := by
  cases toks <;> rfl

/-- There is fuel enough wherever no more tokens are left. -/
theorem fuel_enough {fuel : Nat} (hfuel : ts.length < low + fuel) (h : c.At ts low toks) :
    ts.length < c.place + fuel := Nat.lt_of_lt_of_le hfuel (Nat.add_le_add_right h.low_le fuel)

section Parts

variable {arity? : String → Option Arity} {sub : Nat → Run Expr} {sub' : Reader} {fuel : Nat}
  (hsub : ∀ power (c : Cursor) toks, c.At ts low toks → Follows ts c.place (sub power) c (sub' power toks))
  (hfuel : ts.length < low + fuel) (h : c.At ts low toks)
include hsub h

/-- What stands behind a key. -/
theorem follows_pairValue (key : String) :
    Follows ts c.place (expect ts .colon isColon >>= fun _ => sub 0 >>= fun e => pure (key, e)) c
      (Grammar.pair.value sub' key toks) := by
  cases toks with
  | nil => exact follows_expect_refused h rfl
  | cons t rest =>
    cases t with
    | colon =>
      refine follows_expect h rfl fun h₁ => ?_
      have hvalue := hsub 0 _ rest (h₁.mono (Nat.le_succ_of_le h.low_le))
      rw [Grammar.pair.value]
      exact (hvalue.mono (Nat.le_succ _)).mapped (fun _ h => by rw [h]) fun _ _ h => by rw [h]
    | _ => exact follows_expect_refused h rfl

theorem follows_pair : Follows ts c.place (pair ts sub) c (Grammar.pair sub' toks) := by
  unfold pair
  cases toks with
  | nil => exact follows_advance_refused h _ fun _ => rfl
  | cons t rest =>
    cases t with
    | identifier key | quoted key =>
      refine follows_advance h fun h₁ => ?_
      have hvalue := follows_pairValue hsub (h₁.mono (Nat.le_succ_of_le h.low_le)) key
      exact hvalue.mono (Nat.le_succ _)
    | _ => exact follows_advance_refused h _ fun _ => rfl

include hfuel

theorem follows_multiList : Follows ts c.place (multiList ts sub fuel) c (Grammar.multiList sub' toks) := by
  unfold multiList Grammar.multiList
  have hitems := follows_items .bracket (hsub 0) fuel h (fuel_enough hfuel h)
  exact hitems.mapped (fun _ h => by rw [h]) fun _ _ h => by rw [h]

theorem follows_multiHash : Follows ts c.place (multiHash ts sub fuel) c (Grammar.multiHash sub' toks) := by
  unfold multiHash Grammar.multiHash
  have hitems := follows_items .brace (fun _ _ => follows_pair hsub) fuel h (fuel_enough hfuel h)
  exact hitems.mapped (fun _ h => by rw [h]) fun _ _ h => by rw [h]

theorem follows_arguments : Follows ts c.place (arguments ts sub fuel) c (Grammar.arguments sub' toks) := by
  have hitems := follows_items .paren (hsub 0) fuel h (fuel_enough hfuel h)
  refine follows_peek h ?_
  cases toks with
  | nil => exact hitems
  | cons t rest =>
    cases t with
    | closeParen =>
      refine follows_advance h fun h₁ => ?_
      exact follows_pure (h₁.mono (Nat.le_succ _)) []
    | _ => exact hitems

/-- A call is read from the parenthesis on; its name stands in front of that. -/
theorem follows_call (name : String) {place : Nat} {whole : List Token} (hname : ts.drop place = whole)
    (htoks : toks = .openParen :: rest) :
    Follows ts c.place (call ts arity? sub fuel name place) c (Grammar.call arity? sub' name whole rest) := by
  subst htoks
  refine follows_expect h rfl fun h₁ => ?_
  have harguments := follows_arguments hsub hfuel (h₁.mono (Nat.le_succ_of_le h.low_le))
  unfold Grammar.call
  refine (harguments.mono (Nat.le_succ c.place)).bind (fun fault hread => by rw [hread]) fun args rest c₂ hread h₂ => ?_
  rw [hread]
  dsimp only
  cases arity? name with
  | none => exact follows_failAt h₂.sound.toBounded hname _
  | some arity =>
    by_cases haccepts : arity.accepts args.length
    · simp only [if_pos haccepts]
      exact follows_pure h₂ _
    · simp only [if_neg haccepts]
      exact follows_failAt h₂.sound.toBounded hname _

theorem follows_afterDot (power : Nat) :
    Follows ts c.place (afterDot ts sub fuel power) c (Grammar.afterDot sub' power toks) := by
  have hnested := hsub power c toks h
  refine follows_peek h ?_
  cases toks with
  | nil => exact follows_refuse h _
  | cons t rest =>
    cases t with
    | openBracket =>
      refine follows_advance h fun h₁ => ?_
      exact (follows_multiList hsub hfuel (h₁.mono (Nat.le_succ_of_le h.low_le))).mono (Nat.le_succ _)
    | openBrace =>
      refine follows_advance h fun h₁ => ?_
      exact (follows_multiHash hsub hfuel (h₁.mono (Nat.le_succ_of_le h.low_le))).mono (Nat.le_succ _)
    | identifier _ | quoted _ | star => exact hnested
    | _ => exact follows_refuse h _

theorem follows_projected (power : Nat) :
    Follows ts c.place (projected ts sub fuel power) c (Grammar.projected sub' power toks) := by
  have hnested := hsub power c toks h
  refine follows_peek h ?_
  rw [power_next, Grammar.projected.eq_def]
  by_cases hstop : Token.nextPower toks < projectionStop
  · rw [if_pos hstop, if_pos hstop]
    exact follows_pure h.self _
  rw [if_neg hstop, if_neg hstop]
  cases toks with
  | nil => exact follows_refuse h _
  | cons t rest =>
    cases t with
    | dot =>
      refine follows_advance h fun h₁ => ?_
      exact (follows_afterDot hsub hfuel (h₁.mono (Nat.le_succ_of_le h.low_le)) power).mono (Nat.le_succ _)
    | openBracket | filter => exact hnested
    | _ => exact follows_refuse h _

theorem follows_project (kind : Projection) (power : Nat) (lhs : Expr) :
    Follows ts c.place (project ts sub fuel kind power lhs) c (Grammar.project sub' kind power lhs toks) := by
  unfold project Grammar.project
  exact (follows_projected hsub hfuel h power).mapped (fun _ h => by rw [h]) fun _ _ h => by rw [h]

theorem follows_filter (lhs : Expr) :
    Follows ts c.place (filter ts sub fuel lhs) c (Grammar.filter sub' lhs toks) := by
  unfold filter Grammar.filter
  refine (hsub 0 c toks h).bind (fun fault hread => by rw [hread]) fun predicate after c₁ hread h₁ => ?_
  have hle := h₁.low_le
  rw [hread]
  cases after with
  | nil => exact follows_expect_refused h₁ rfl
  | cons t rest =>
    cases t with
    | closeBracket =>
      refine follows_expect h₁ rfl fun h₂ => ?_
      have hlow : low ≤ c₁.place + 1 := Nat.le_succ_of_le (Nat.le_trans h.low_le hle)
      have hprojected := follows_projected hsub hfuel (h₂.mono hlow) Token.filter.power
      dsimp only
      exact (hprojected.mono (Nat.le_succ_of_le hle)).mapped (fun _ h => by rw [h]) fun _ _ h => by rw [h]
    | _ => exact follows_expect_refused h₁ rfl

/-- From the first colon on, a slice is read. -/
theorem follows_slice {start : Option Int64} {lhs : Expr}
    (hslots : readSlots toks .empty = readSlots rest ⟨1, start, none, none, none⟩) :
    Follows ts c.place (indexOrSlice ts sub fuel lhs) c (sliceFrom sub' lhs start (.colon :: rest)) := by
  rw [sliceFrom_eq, ← hslots]
  refine (follows_slots fuel .empty h (fuel_enough hfuel h)).bind (fun fault hread => by rw [hread])
    fun s rest c₁ hread h₁ => ?_
  have hpart : s.part ≠ 0 := by
    rw [hslots] at hread
    exact Nat.ne_of_gt (part_le_of_readSlots hread)
  rw [hread, if_neg hpart]
  dsimp only
  unfold sliced
  cases if s.step = some 0 then s.stepAt else none with
  | some whole => exact follows_fail h₁.sound.toBounded _
  | none => exact (follows_project hsub hfuel (h₁.mono h.low_le) _ _ lhs).mono h₁.low_le

/-- An index, a slice or a list projection is read, or else what the bracket opens. -/
theorem follows_bracket {lhs : Expr} {otherwise : Run Expr} {y : Parsed Expr}
    (hother : Follows ts c.place otherwise c y) :
    Follows ts c.place (bracket ts sub fuel lhs otherwise) c ((bracket? sub' lhs toks).getD y) := by
  have henough := fuel_enough hfuel h
  refine follows_peek h (follows_peek h ?_)
  cases toks with
  | nil => exact hother
  | cons t rest =>
    cases t with
    | number n =>
      cases rest with
      | nil => exact follows_unended h henough rfl
      | cons u rest =>
        cases u with
        | closeBracket => exact follows_index h henough rfl
        | colon => exact follows_slice hsub hfuel h rfl
        | _ => exact follows_unended h henough rfl
    | colon => exact follows_slice hsub hfuel h rfl
    | star =>
      cases rest with
      | nil => exact hother
      | cons u rest =>
        cases u with
        | closeBracket =>
          refine follows_advance h fun h₁ => follows_advance h₁ fun h₂ => ?_
          have hlow : low ≤ c.place + 2 := Nat.le_add_right_of_le h.low_le
          have hproject := follows_project hsub hfuel (h₂.mono hlow) .list Token.star.power lhs
          exact hproject.mono (Nat.le_add_right c.place 2)
        | _ => exact hother
    | _ => exact hother

/-! ### Starts and links -/

omit h in
/-- How an expression starts: a token is taken in any case. -/
theorem follows_primary (h : c.At ts c.place toks) (hlow : low ≤ c.place + 1) :
    Follows ts (c.place + 1) (primary ts arity? sub fuel) c (Grammar.primary arity? sub' toks) := by
  unfold primary
  cases toks with
  | nil => exact follows_begin_refused h _ fun _ => rfl
  | cons t rest =>
    cases t with
    | current | raw _ | literal _ => exact follows_begin h fun h₁ => follows_pure h₁ _
    | identifier name =>
      refine follows_begin h fun h₁ => follows_peek h₁ ?_
      cases rest with
      | nil => exact follows_pure h₁ _
      | cons u rest =>
        cases u with
        | openParen => exact follows_call hsub hfuel (h₁.mono hlow) name h.drop rfl
        | _ => exact follows_pure h₁ _
    | quoted name =>
      refine follows_begin h fun h₁ => follows_peek h₁ ?_
      cases rest with
      | nil => exact follows_pure h₁ _
      | cons u rest =>
        cases u with
        | openParen => exact follows_failAt h₁.sound.toBounded h.drop _
        | _ => exact follows_pure h₁ _
    | star | flatten => exact follows_begin h fun h₁ => follows_project hsub hfuel (h₁.mono hlow) _ _ _
    | openBracket =>
      refine follows_begin h fun h₁ => ?_
      exact follows_bracket hsub hfuel (h₁.mono hlow) (follows_multiList hsub hfuel (h₁.mono hlow))
    | filter => exact follows_begin h fun h₁ => follows_filter hsub hfuel (h₁.mono hlow) _
    | openBrace => exact follows_begin h fun h₁ => follows_multiHash hsub hfuel (h₁.mono hlow)
    | ampersand | not =>
      refine follows_begin h fun h₁ => ?_
      rw [Grammar.primary]
      exact (hsub _ _ rest (h₁.mono hlow)).mapped (fun _ h => by rw [h]) fun _ _ h => by rw [h]
    | openParen =>
      refine follows_begin h fun h₁ => ?_
      rw [Grammar.primary]
      refine (hsub _ _ rest (h₁.mono hlow)).bind (fun fault hread => by rw [hread]) fun e after c₂ hread h₂ => ?_
      rw [hread]
      cases after with
      | nil => exact follows_expect_refused h₂ rfl
      | cons u rest =>
        cases u with
        | closeParen =>
          refine follows_expect h₂ rfl fun h₃ => ?_
          exact follows_pure (h₃.mono (Nat.le_succ_of_le h₂.low_le)) e
        | _ => exact follows_expect_refused h₂ rfl
    | _ => exact follows_begin_refused h _ fun _ => rfl

omit hsub hfuel in
/-- The pattern behind a sign of resemblance. -/
theorem follows_resembling (left : Expr) :
    Follows ts c.place (resembling ts left) c (Grammar.extend sub' left (.resembles :: toks)) := by
  unfold resembling
  cases toks with
  | nil => exact follows_advance_refused h _ fun _ => rfl
  | cons t rest =>
    cases t with
    | raw pattern =>
      refine follows_advance h fun h₁ => ?_
      rw [Grammar.extend]
      dsimp only
      cases Regex.compile? pattern with
      | none => exact follows_failAt h₁.sound.toBounded h.drop _
      | some regex => exact follows_pure (h₁.mono (Nat.le_succ _)) _
    | _ => exact follows_advance_refused h _ fun _ => rfl

omit h in
/-- How the next token takes an expression further: it is taken in any case. -/
theorem follows_extend (left : Expr) (h : c.At ts c.place toks) (hlow : low ≤ c.place + 1) :
    Follows ts (c.place + 1) (extend ts sub fuel left) c (Grammar.extend sub' left toks) := by
  unfold extend
  cases toks with
  | nil => exact follows_begin_refused h _ fun _ => rfl
  | cons t rest =>
    cases t with
    | dot =>
      refine follows_begin h fun h₁ => follows_peek h₁ ?_
      have hdot := follows_afterDot hsub hfuel (h₁.mono hlow) Token.dot.power
      cases rest with
      | nil =>
        exact hdot.mapped (fun _ h => by simp only [Grammar.extend, h]) fun _ _ h => by simp only [Grammar.extend, h]
      | cons u rest =>
        cases u with
        | star =>
          refine follows_advance h₁ fun h₂ => ?_
          have hbehind : low ≤ c.place + 2 := Nat.le_succ_of_le hlow
          exact (follows_project hsub hfuel (h₂.mono hbehind) _ _ _).mono (Nat.le_succ (c.place + 1))
        | _ =>
          exact hdot.mapped (fun _ h => by simp only [Grammar.extend, h]) fun _ _ h => by simp only [Grammar.extend, h]
    | openBracket =>
      refine follows_begin h fun h₁ => ?_
      exact follows_bracket hsub hfuel (h₁.mono hlow) (follows_refuse h₁ _)
    | flatten => exact follows_begin h fun h₁ => follows_project hsub hfuel (h₁.mono hlow) _ _ _
    | filter => exact follows_begin h fun h₁ => follows_filter hsub hfuel (h₁.mono hlow) _
    | pipe =>
      refine follows_begin h fun h₁ => ?_
      rw [Grammar.extend]
      exact (hsub _ _ rest (h₁.mono hlow)).mapped (fun _ h => by rw [h]) fun _ _ h => by rw [h]
    | or | and | eq | ne | lt | le | gt | ge =>
      refine follows_begin h fun h₁ => ?_
      exact (hsub _ _ rest (h₁.mono hlow)).mapped (fun _ h => by simp only [Grammar.extend, binaryOp?, h])
        fun _ _ h => by simp only [Grammar.extend, binaryOp?, h]
    | resembles => exact follows_begin h fun h₁ => follows_resembling h₁.self left
    | _ => exact follows_begin_refused h _ fun _ => rfl

end Parts

/-! ## Expressions -/

section Expressions

variable {arity? : String → Option Arity} {limit fuel : Nat} {x : Run α} {y : Parsed α}

/-- What has been taken for an expression is a token at least, and never the end. -/
theorem taken_between (h : c.At ts low toks) (h' : c'.At ts (c.place + 1) rest) :
    c'.taken.take (c'.taken.length - c.taken.length) ≠ [] ∧
      ∀ t ∈ c'.taken.take (c'.taken.length - c.taken.length), t.token ≠ none := by
  constructor
  · intro hnil
    have hplace := h'.low_le
    have hlength := congrArg List.length hnil
    rw [List.length_take, h.sound.length, h'.sound.length, List.length_nil] at hlength
    omega
  · intro t ht
    exact h'.sound.tokens t (List.mem_of_mem_take ht)

theorem follows_recorded (h : c.At ts low toks) (hx : Follows ts (c.place + 1) x c y) :
    Follows ts (c.place + 1) (recorded x) c y := by
  rcases y with fault | ⟨a, rest⟩
  · obtain ⟨c', hrun, hc'⟩ := hx
    refine ⟨c', ?_, hc'⟩
    simp only [recorded, hrun]
  · obtain ⟨c', hrun, h'⟩ := hx
    refine ⟨c'.noted (c'.taken.take (c'.taken.length - c.taken.length)), ?_, h'.noted (taken_between h h')⟩
    simp only [recorded, hrun]
    rfl

/-- With this much fuel, nested expressions are read wherever no more tokens are left. -/
def FollowsWithin (ts : List Token) (arity? : String → Option Arity) (limit fuel : Nat) : Prop :=
  ∀ depth power (c : Cursor) toks, c.At ts c.place toks → ts.length < c.place + fuel →
    Follows ts (c.place + 1) (expression ts arity? limit fuel depth power) c
      (Grammar.expression arity? limit depth power toks)

theorem FollowsWithin.nested (h : FollowsWithin ts arity? limit fuel) (hfuel : ts.length < low + fuel)
    (depth power : Nat) (c : Cursor) (toks : List Token) (hc : c.At ts low toks) :
    Follows ts c.place (expression ts arity? limit fuel depth power) c
      (Grammar.expression arity? limit depth power toks) :=
  (h depth power c toks hc.self (fuel_enough hfuel hc)).mono (Nat.le_succ _)

/-- A chain takes a token with every link. -/
theorem follows_chain (hsub : ∀ f < fuel, FollowsWithin ts arity? limit f) (depth power : Nat) (left : Expr)
    (h : c.At ts c.place toks) (hfuel : ts.length < c.place + fuel) :
    Follows ts c.place (chain ts arity? limit fuel depth power left) c
      (Grammar.chain arity? limit depth power left toks) := by
  induction fuel generalizing depth left c toks with
  | zero => exact absurd h.sound.place (Nat.not_le.2 hfuel)
  | succ fuel ih =>
    rw [chain.eq_def, Grammar.chain.eq_def]
    dsimp only
    refine follows_peek h ?_
    rw [power_next]
    by_cases hpower : Token.nextPower toks ≤ power
    · rw [if_pos hpower, if_pos hpower]
      exact follows_pure h left
    rw [if_neg hpower, if_neg hpower]
    cases depth with
    | zero => exact follows_refuse h _
    | succ depth =>
      have hbehind : ts.length < c.place + 1 + fuel := by omega
      have hnested := (hsub fuel (Nat.lt_succ_self _)).nested hbehind depth
      dsimp only
      refine (follows_extend hnested hbehind left h (Nat.le_refl _)).bind (fun fault hread => by rw [hread])
        fun left rest c₁ hread h₁ => ?_
      rw [hread]
      have hlinks := ih (fun f hf => hsub f (Nat.lt_succ_of_lt hf)) depth left h₁.self (fuel_enough hbehind h₁)
      exact hlinks.mono (Nat.le_of_succ_le h₁.low_le)

/-- **The reader with a cursor** does what the grammar does if there is more fuel than tokens are left, whatever
the limit of nesting is. -/
theorem follows_expression (ts : List Token) (arity? : String → Option Arity) (limit fuel : Nat) :
    FollowsWithin ts arity? limit fuel := by
  induction fuel using Nat.strongRecOn with
  | ind fuel ih =>
    intro depth power c toks h hfuel
    cases fuel with
    | zero => exact absurd h.sound.place (Nat.not_le.2 hfuel)
    | succ fuel =>
      rw [expression.eq_def]
      refine follows_recorded h ?_
      cases depth with
      | zero => exact follows_refuse h _
      | succ depth =>
        have hbehind : ts.length < c.place + 1 + fuel := by omega
        have hnested := (ih fuel (Nat.lt_succ_self _)).nested hbehind depth
        rw [Grammar.expression]
        refine (follows_primary hnested hbehind h (Nat.le_refl _)).bind (fun fault hread => by rw [hread])
          fun left rest c₁ hread h₁ => ?_
        rw [hread]
        have hchain := follows_chain (fun f hf => ih f (Nat.lt_succ_of_lt hf)) depth power left h₁.self
          (fuel_enough hbehind h₁)
        exact hchain.mono h₁.low_le

/-- All the tokens are read as the grammar reads them. -/
theorem whole_eq (arity? : String → Option Arity) (limit : Nat) (hfuel : ts.length < fuel) :
    ∃ c, (whole ts arity? limit fuel).run .start = some (Grammar.whole arity? limit ts, c) ∧ c.Bounded ts := by
  have hstart : Cursor.start.At ts Cursor.start.place ts := ⟨Cursor.sound_start ts, Nat.le_refl _, rfl⟩
  have hread := follows_expression ts arity? limit fuel limit 0 .start ts hstart ((Nat.zero_add fuel).symm ▸ hfuel)
  unfold whole Grammar.whole
  cases hgrammar : Grammar.expression arity? limit limit 0 ts with
  | error fault =>
    rw [hgrammar] at hread
    obtain ⟨c, hrun, hc⟩ := hread
    exact ⟨c, bind_error hrun, hc⟩
  | ok r =>
    obtain ⟨e, rest⟩ := r
    rw [hgrammar] at hread
    obtain ⟨c, hrun, h⟩ := hread
    refine ⟨c, ?_, h.sound.toBounded⟩
    rw [bind_ok hrun, bind_ok (run_peek h 0)]
    cases rest with
    | nil => rfl
    | cons t rest =>
      show some (Except.error (Fault.mk (.unexpected ts[c.place]?) (ts.drop c.place)), c) = _
      rw [h.head?, h.drop]

end Expressions

end Run

/-- **The reader always gets on.**  Whatever the tokens, the functions and the limit of nesting are, the reader with
a cursor ends with the result of the grammar as soon as it has more fuel than there are tokens.  Its cursor never
passes the end, every expression that it reads is read from a token at least and never from the end, and it begins
no more operands and links than there are tokens, the end counted. -/
theorem whole_progress (arity? : String → Option Arity) (limit : Nat) (ts : List Token) {fuel : Nat}
    (hfuel : ts.length < fuel) :
    ∃ c, (Run.whole ts arity? limit fuel).run .start = some (whole arity? limit ts, c) ∧
      c.place ≤ ts.length ∧ (∀ t ∈ c.taken, t.place ≤ ts.length) ∧
      (∀ r ∈ c.readings, r ≠ [] ∧ ∀ t ∈ r, t.token ≠ none) ∧ c.steps ≤ ts.length + 1 := by
  obtain ⟨c, hrun, hc⟩ := Run.whole_eq arity? limit hfuel
  exact ⟨c, hrun, hc.place, hc.taken, hc.readings, hc.steps⟩

/-- Texts that end inside a list, a hash, a slice and a list of arguments are refused at their end. -/
theorem whole_progress_unclosed :
    let unclosed : List (List Token) := [[.openBracket, .identifier "a", .comma, .identifier "b"],
      [.openBrace, .identifier "k", .colon, .identifier "a"], [.identifier "a", .openBracket, .number 1, .colon],
      [.identifier "f", .openParen, .identifier "a", .comma]]
    ∀ ts ∈ unclosed, ts.length < 5 ∧ ∃ fault c,
      (Run.whole ts (fun _ => none) 256 5).run .start = some (.error fault, c) ∧ fault.rest = [] ∧
      c.place ≤ ts.length ∧ (∀ t ∈ c.taken, t.place ≤ ts.length) ∧
      (∀ r ∈ c.readings, r ≠ [] ∧ ∀ t ∈ r, t.token ≠ none) ∧ c.steps ≤ ts.length + 1 := by
  intro unclosed ts hts
  have hlength : ts.length < 5 := by
    have hall : ∀ ts ∈ unclosed, ts.length < 5 := by simp [unclosed]
    exact hall ts hts
  have hrefused : ∃ fault, whole (fun _ => none) 256 ts = .error fault ∧ fault.rest = [] := by
    simp only [unclosed, List.mem_cons, List.not_mem_nil, or_false] at hts
    rcases hts with rfl | rfl | rfl | rfl
    all_goals exact ⟨_, by cbv, rfl⟩
  obtain ⟨fault, hwhole, hrest⟩ := hrefused
  obtain ⟨c, hrun, hprogress⟩ := whole_progress (fun _ => none) 256 ts hlength
  exact ⟨hlength, fault, c, hwhole ▸ hrun, hrest, hprogress⟩

/-- A list that is not closed: its two items are read, and the end is taken in place of a bracket. -/
example : ((Run.whole [.openBracket, .identifier "a", .comma, .identifier "b"] (fun _ => none) 256 5).run .start).map
    (fun r => (r.2.place, r.2.taken.length, r.2.steps, r.2.readings.map List.length)) = some (4, 5, 3, [1, 1]) := by
  rfl

end Grammar

end JsonQuery
