import Mathlib.Data.List.DropRight
import JsonQuery.Proofs.Token.Scanning
import JsonQuery.Text.Position

/-!
# Places, counted from the start of the text

* `Position.breaks`, `Position.lastLine` — the line breaks of a text, and what stands behind the last one.
* `Position.behind` — the place behind a text: its line breaks, and the characters of its last line.
* `Position.along_eq_behind` — walking over a text character by character leads to the place behind it,
  unless it ends within a line break.
* `Position.Before` — the order of places; `Position.before_along` — a walk over a character that breaks
  no line leads to a later one.
-/

namespace JsonQuery.Position

/-! ## Definitions -/

/-- The characters that break a line, a carriage return and a line feed also together. -/
def isBreak (c : Char) : Bool := c == '\n' || c == '\r'

/-- The number of line breaks in a text: line feeds, carriage returns, and pairs of the two, which are
one each. -/
def breaks : List Char → Nat
  | [] => 0
  | '\r' :: '\n' :: cs => breaks cs + 1
  | c :: cs => if isBreak c then breaks cs + 1 else breaks cs

/-- What stands behind the last line break of a text, or the whole text. -/
def lastLine (cs : List Char) : List Char := cs.rtakeWhile fun c => !isBreak c

/-- The place behind a text. -/
def behind (cs : List Char) : Position := ⟨1 + breaks cs, 1 + (lastLine cs).length⟩

/-- Between two parts of a text there is not the middle of a line break. -/
def Between (pre post : List Char) : Prop := pre.getLast? = some '\r' → post.head? ≠ some '\n'

/-- The order of places in a text. -/
def Before (p q : Position) : Prop := p.line < q.line ∨ p.line = q.line ∧ p.column < q.column

/-! ## Lines -/

variable {c : Char} {cs pre post : List Char}

theorem lastLine_cons_of_break (hc : isBreak c = true) (cs : List Char) :
    lastLine (c :: cs) = lastLine cs := by
  unfold lastLine List.rtakeWhile
  rw [List.reverse_cons, takeWhile_append_of_stop (by simp [hc])]

theorem lastLine_of_forall (h : ∀ c ∈ cs, isBreak c = false) : lastLine cs = cs :=
  List.rtakeWhile_eq_self_iff.2 fun c hc => by simp [h c hc]

theorem lastLine_cons_of_mem (h : ∃ d ∈ cs, isBreak d = true) (c : Char) :
    lastLine (c :: cs) = lastLine cs := by
  obtain ⟨d, hd, hbreak⟩ := h
  obtain ⟨as, bs, rfl⟩ := List.append_of_mem hd
  unfold lastLine List.rtakeWhile
  have hstop : (!isBreak d) = false := by rw [hbreak, Bool.not_true]
  rw [List.reverse_cons, List.reverse_append, List.reverse_cons, List.append_assoc, List.append_assoc,
    List.singleton_append, takeWhile_append_of_stop hstop, List.append_assoc,
    List.singleton_append, takeWhile_append_of_stop hstop]

theorem breaks_eq_zero_iff : breaks cs = 0 ↔ ∀ c ∈ cs, isBreak c = false := by
  fun_induction breaks cs with
  | case1 => simp
  | case2 cs ih => simp [isBreak]
  | case3 c cs hpair hbreak ih => simp [hbreak]
  | case4 c cs hpair hbreak ih => simpa [hbreak] using ih

/-- The place behind a text that starts at a place. -/
def after (p : Position) (cs : List Char) : Position :=
  ⟨p.line + breaks cs, (if breaks cs = 0 then p.column else 1) + (lastLine cs).length⟩

theorem start_after (cs : List Char) : start.after cs = behind cs := by
  unfold after behind start
  rw [ite_self]

theorem after_break {p : Position} (brk : List Char) (hbrk : breaks (brk ++ cs) = breaks cs + 1)
    (hline : lastLine (brk ++ cs) = lastLine cs) : p.after (brk ++ cs) = p.nextLine.after cs := by
  unfold after nextLine
  rw [hbrk, hline]
  simp only [Nat.add_eq_zero_iff, Nat.one_ne_zero, and_false, if_false, ite_self, Position.mk.injEq,
    and_true]
  omega

theorem after_other {p : Position} (hc : isBreak c = false) (hbreaks : breaks (c :: cs) = breaks cs) :
    p.after (c :: cs) = (⟨p.line, p.column + 1⟩ : Position).after cs := by
  unfold after
  rw [hbreaks]
  by_cases hzero : breaks cs = 0
  · have hcs := breaks_eq_zero_iff.1 hzero
    rw [lastLine_of_forall hcs, lastLine_of_forall (List.forall_mem_cons.2 ⟨hc, hcs⟩)]
    simp only [if_pos hzero, List.length_cons]
    congr 1
    omega
  · have hmem : ∃ d ∈ cs, isBreak d = true := by
      simpa using mt breaks_eq_zero_iff.2 hzero
    rw [lastLine_cons_of_mem hmem]
    simp only [if_neg hzero]

/-! ## Walks -/

theorem Between.tail (h : Between (c :: cs) post) : Between cs post := by
  intro hlast
  cases cs with
  | nil => cases hlast
  | cons d cs => exact h hlast

theorem between_of_not_isBreak (hc : isBreak c = false) : Between pre (c :: cs) := by
  rintro - ⟨⟩
  cases hc

/-- Walking over the first part of a text leads behind it. -/
theorem along_eq_after (p : Position) (h : Between pre post) :
    p.along pre.length (pre ++ post) = p.after pre := by
  fun_induction breaks pre generalizing p with
  | case1 => simp [after, breaks, lastLine]
  | case2 cs ih =>
    have hpair : p.after (['\r', '\n'] ++ cs) = p.nextLine.after cs :=
      after_break _ rfl ((lastLine_cons_of_break rfl _).trans (lastLine_cons_of_break rfl _))
    exact (ih p.nextLine h.tail.tail).trans hpair.symm
  | case3 c cs hpair hbreak ih =>
    have hcount : breaks (c :: cs) = breaks cs + 1 := by
      rw [breaks.eq_3 _ _ hpair, if_pos hbreak]
    have hstep : p.step c (cs ++ post).head? = p.nextLine := by
      unfold step
      by_cases hfeed : c = '\n'
      · rw [if_pos hfeed]
      · have hreturn : c = '\r' := by simpa [isBreak, hfeed] using hbreak
        subst hreturn
        have hnext : (cs ++ post).head? ≠ some '\n' := by
          cases cs with
          | nil => exact h rfl
          | cons d cs =>
            intro hd
            cases hd
            exact hpair cs rfl rfl
        rw [if_neg hfeed, if_pos rfl, if_neg hnext]
    rw [List.length_cons, List.cons_append, along_succ_cons, hstep, ih p.nextLine h.tail]
    exact (after_break [c] hcount (lastLine_cons_of_break hbreak cs)).symm
  | case4 c cs hpair hbreak ih =>
    have hother : isBreak c = false := by simpa using hbreak
    have hcount : breaks (c :: cs) = breaks cs := by
      rw [breaks.eq_3 _ _ hpair, if_neg hbreak]
    have hstep : p.step c (cs ++ post).head? = ⟨p.line, p.column + 1⟩ := by
      obtain ⟨hfeed, hreturn⟩ : c ≠ '\n' ∧ c ≠ '\r' := by simpa [isBreak] using hother
      unfold step
      rw [if_neg hfeed, if_neg hreturn]
    rw [List.length_cons, List.cons_append, along_succ_cons, hstep, ih _ h.tail]
    exact (after_other hother hcount).symm

/-- **Places are exact**: a walk from the start of a text leads to the place behind what was walked over,
unless that ends within a line break. -/
theorem along_eq_behind (h : Between pre post) : start.along pre.length (pre ++ post) = behind pre :=
  (along_eq_after start h).trans (start_after pre)

/-- A walk over one part of a text and then over the next. -/
theorem along_append (p : Position) (pre cs post : List Char) :
    p.along (pre ++ cs).length (pre ++ cs ++ post) =
      (p.along pre.length (pre ++ (cs ++ post))).along cs.length (cs ++ post) := by
  rw [List.length_append, along_add, List.append_assoc, List.drop_left]

/-! ## Order -/

variable {p q r : Position}

theorem Before.trans (hpq : p.Before q) (hqr : q.Before r) : p.Before r := by
  unfold Before at *
  omega

theorem step_le (p : Position) (c : Char) (next : Option Char) :
    p.step c next = p ∨ p.Before (p.step c next) := by
  unfold step Before nextLine
  split
  · exact .inr (.inl (Nat.lt_succ_self _))
  · split
    · split
      · exact .inl rfl
      · exact .inr (.inl (Nat.lt_succ_self _))
    · exact .inr (.inr ⟨rfl, Nat.lt_succ_self _⟩)

theorem along_le (p : Position) (n : Nat) (cs : List Char) : p.along n cs = p ∨ p.Before (p.along n cs) := by
  induction n generalizing p cs with
  | zero => exact .inl (along_zero p cs)
  | succ n ih =>
    cases cs with
    | nil => exact .inl (along_nil p _)
    | cons c cs =>
      rw [along_succ_cons]
      rcases step_le p c cs.head?, ih (p.step c cs.head?) cs with ⟨hstep | hstep, hrest | hrest⟩
      · exact .inl (hrest.trans hstep)
      · rw [hstep] at hrest ⊢
        exact .inr hrest
      · rw [hrest]
        exact .inr hstep
      · exact .inr (hstep.trans hrest)

/-- A walk over a character that breaks no line leads to a later place. -/
theorem before_along (p : Position) (hc : isBreak c = false) (n : Nat) (cs : List Char) :
    p.Before (p.along (n + 1) (c :: cs)) := by
  obtain ⟨hfeed, hreturn⟩ : c ≠ '\n' ∧ c ≠ '\r' := by simpa [isBreak] using hc
  have hstep : p.Before (p.step c cs.head?) := by
    unfold step
    rw [if_neg hfeed, if_neg hreturn]
    exact .inr ⟨rfl, Nat.lt_succ_self _⟩
  rw [along_succ_cons]
  rcases along_le (p.step c cs.head?) n cs with hrest | hrest
  · rwa [hrest]
  · exact hstep.trans hrest

end JsonQuery.Position
