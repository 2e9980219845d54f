import JsonQuery.Proofs.Grammar.Cursor
import Mathlib.Data.List.Basic
import Mathlib.Tactic.ByContra

/-!
# What taking a token does

* `Cursor.Sound`, `Cursor.Bounded` — what holds of a cursor as long as there is no fault, and what is left of that
  when there is one.
* `Cursor.At` — a cursor in front of some tokens.
* `Run.Follows` — a run does what the grammar does with the tokens in front of its cursor.
* `Run.Follows.bind`, `Run.follows_peek`, `Run.follows_advance`, `Run.follows_expect` — how a run goes on after what
  has been read, looked at or taken.
-/

namespace JsonQuery

namespace Grammar

variable {α β : Type} {ts toks rest : List Token} {t : Token} {c c' : Cursor} {low low' : Nat}

namespace Cursor

/-- What holds of a cursor whenever a run ends: it has not passed the end, everything that has been read was read
from tokens, and no more has been begun than there are tokens, the end counted. -/
structure Bounded (ts : List Token) (c : Cursor) : Prop where
  place : c.place ≤ ts.length
  taken : ∀ t ∈ c.taken, t.place ≤ ts.length
  readings : ∀ r ∈ c.readings, r ≠ [] ∧ ∀ t ∈ r, t.token ≠ none
  steps : c.steps ≤ ts.length + 1

/-- What holds of a cursor as long as there is no fault: besides, it has moved on with everything that has been
taken, and for everything that has been begun a token was taken. -/
structure Sound (ts : List Token) (c : Cursor) : Prop extends Bounded ts c where
  length : c.taken.length = c.place
  tokens : ∀ t ∈ c.taken, t.token ≠ none
  steps_le : c.steps ≤ c.place

theorem sound_start (ts : List Token) : start.Sound ts :=
  ⟨⟨Nat.zero_le _, nofun, nofun, Nat.zero_le _⟩, rfl, nofun, Nat.le_refl _⟩

/-- A cursor in front of these tokens, no less far than `low`. -/
structure At (ts : List Token) (low : Nat) (c : Cursor) (toks : List Token) : Prop where
  sound : c.Sound ts
  low_le : low ≤ c.place
  drop : ts.drop c.place = toks

theorem At.mono (h : c.At ts low toks) (hle : low' ≤ low) : c.At ts low' toks :=
  ⟨h.sound, Nat.le_trans hle h.low_le, h.drop⟩

theorem At.self (h : c.At ts low toks) : c.At ts c.place toks := ⟨h.sound, Nat.le_refl _, h.drop⟩

/-- What stands at a distance from the cursor. -/
theorem At.getElem? (h : c.At ts low toks) (i : Nat) : ts[c.place + i]? = toks[i]? := by
  rw [← h.drop, List.getElem?_drop]

theorem At.head? (h : c.At ts low toks) : ts[c.place]? = toks.head? := by rw [← h.drop, List.head?_drop]

theorem At.lt_length (h : c.At ts low (t :: rest)) : c.place < ts.length := by
  by_contra hle
  have hdrop := h.drop
  rw [List.drop_eq_nil_of_le (Nat.le_of_not_lt hle)] at hdrop
  cases hdrop

/-- Fewer tokens stand in front of a cursor that is further on. -/
theorem At.length_lt (h : c.At ts low toks) (h' : c'.At ts (c.place + 1) rest) : rest.length < toks.length := by
  have hplace := h'.low_le
  have hlength := h'.sound.place
  rw [← h.drop, ← h'.drop, List.length_drop, List.length_drop]
  omega

/-! ## One token -/

/-- What taking a token leaves. -/
def next (c : Cursor) (t : Token) : Cursor :=
  { c with place := c.place + 1, taken := ⟨some t, c.place⟩ :: c.taken }

/-- What taking the end leaves. -/
def atEnd (c : Cursor) : Cursor := { c with taken := ⟨none, c.place⟩ :: c.taken }

/-- What the beginning of an operand or a link leaves, in front of its first token. -/
def begun (c : Cursor) : Cursor := { c with steps := c.steps + 1 }

theorem At.next_taken (h : c.At ts low (t :: rest)) : ∀ u ∈ (c.next t).taken, u.place ≤ ts.length :=
  List.forall_mem_cons.2 ⟨h.sound.place, h.sound.taken⟩

theorem At.next_tokens (h : c.At ts low (t :: rest)) : ∀ u ∈ (c.next t).taken, u.token ≠ none :=
  List.forall_mem_cons.2 ⟨nofun, h.sound.tokens⟩

theorem At.drop_next (h : c.At ts low (t :: rest)) : ts.drop (c.place + 1) = rest := by
  rw [← List.drop_drop, h.drop]
  rfl

/-- A token is taken. -/
theorem At.next (h : c.At ts low (t :: rest)) : (c.next t).At ts (c.place + 1) rest := by
  obtain ⟨hbounded, hlength, -, hsteps⟩ := h.sound
  refine ⟨⟨⟨h.lt_length, h.next_taken, hbounded.readings, hbounded.steps⟩, ?_, h.next_tokens, ?_⟩, Nat.le_refl _,
    h.drop_next⟩
  · exact congrArg Nat.succ hlength
  · exact Nat.le_succ_of_le hsteps

/-- The first token of an operand or a link is taken. -/
theorem At.begun (h : c.At ts low (t :: rest)) : (c.begun.next t).At ts (c.place + 1) rest := by
  obtain ⟨hbounded, hlength, -, hsteps⟩ := h.sound
  have hplace := h.lt_length
  refine ⟨⟨⟨hplace, h.next_taken, hbounded.readings, ?_⟩, ?_, h.next_tokens, Nat.succ_le_succ hsteps⟩, Nat.le_refl _,
    h.drop_next⟩
  · show c.steps + 1 ≤ ts.length + 1
    omega
  · exact congrArg Nat.succ hlength

/-- What the record of an expression leaves. -/
def noted (c : Cursor) (reading : List Taken) : Cursor := { c with readings := reading :: c.readings }

theorem At.noted {reading : List Taken} (h : c.At ts low toks)
    (hreading : reading ≠ [] ∧ ∀ t ∈ reading, t.token ≠ none) : (c.noted reading).At ts low toks := by
  obtain ⟨hbounded, hlength, htokens, hsteps⟩ := h.sound
  have hreadings : ∀ r ∈ (c.noted reading).readings, r ≠ [] ∧ ∀ t ∈ r, t.token ≠ none :=
    List.forall_mem_cons.2 ⟨hreading, hbounded.readings⟩
  exact ⟨⟨⟨hbounded.place, hbounded.taken, hreadings, hbounded.steps⟩, hlength, htokens, hsteps⟩, h.low_le, h.drop⟩

/-! ## The end -/

theorem Sound.atEnd (hc : c.Sound ts) : c.atEnd.Bounded ts :=
  ⟨hc.place, List.forall_mem_cons.2 ⟨hc.place, hc.taken⟩, hc.readings, hc.steps⟩

theorem Sound.begunAtEnd (hc : c.Sound ts) : c.begun.atEnd.Bounded ts :=
  ⟨hc.place, List.forall_mem_cons.2 ⟨hc.place, hc.taken⟩, hc.readings,
    Nat.succ_le_succ (Nat.le_trans hc.steps_le hc.place)⟩

end Cursor

namespace Run

/-! ## Following the grammar -/

/-- From this cursor on, the run ends as the grammar does, with its cursor in front of the tokens that are left, no
less far than `low`, or with its fault. -/
def Follows (ts : List Token) (low : Nat) (x : Run α) (c : Cursor) : Parsed α → Prop
  | .ok (a, rest) => ∃ c', x.run c = some (.ok a, c') ∧ c'.At ts low rest
  | .error fault => ∃ c', x.run c = some (.error fault, c') ∧ c'.Bounded ts

variable {x : Run α} {k : α → Run β} {y : Parsed α} {z : Parsed β}

theorem bind_ok {a : α} (h : x.run c = some (.ok a, c')) : (x >>= k).run c = (k a).run c' := by
  simp only [Bind.bind, h]

theorem bind_error {fault : Fault} (h : x.run c = some (.error fault, c')) :
    (x >>= k).run c = some (.error fault, c') := by
  simp only [Bind.bind, h]

/-- A run that goes on like another one follows what that one follows. -/
theorem Follows.congr {x' : Run α} (h : Follows ts low x' c' y) (hrun : x.run c = x'.run c') :
    Follows ts low x c y := by
  rcases y with fault | ⟨a, rest⟩
  · obtain ⟨d, hd, hbounded⟩ := h
    exact ⟨d, hrun.trans hd, hbounded⟩
  · obtain ⟨d, hd, hat⟩ := h
    exact ⟨d, hrun.trans hd, hat⟩

theorem Follows.mono (h : Follows ts low x c y) (hle : low' ≤ low) : Follows ts low' x c y := by
  rcases y with fault | ⟨a, rest⟩
  · exact h
  · obtain ⟨d, hd, hat⟩ := h
    exact ⟨d, hd, hat.mono hle⟩

/-- A run goes on with what has been read, from where that has been left. -/
theorem Follows.bind (hx : Follows ts low' x c y) (herror : ∀ fault, y = .error fault → z = .error fault)
    (hok : ∀ a rest c', y = .ok (a, rest) → c'.At ts low' rest → Follows ts low (k a) c' z) :
    Follows ts low (x >>= k) c z := by
  rcases y with fault | ⟨a, rest⟩
  · obtain ⟨d, hd, hbounded⟩ := hx
    rw [herror fault rfl]
    exact ⟨d, bind_error hd, hbounded⟩
  · obtain ⟨d, hd, hat⟩ := hx
    exact (hok a rest d rfl hat).congr (bind_ok hd)

theorem follows_pure (h : c.At ts low toks) (a : α) : Follows ts low (pure a) c (.ok (a, toks)) := ⟨c, rfl, h⟩

/-- A run ends with what is made of what has been read. -/
theorem Follows.mapped {f : α → β} (hx : Follows ts low x c y)
    (herror : ∀ fault, y = .error fault → z = .error fault)
    (hok : ∀ a rest, y = .ok (a, rest) → z = .ok (f a, rest)) :
    Follows ts low (x >>= fun a => pure (f a)) c z := by
  refine hx.bind herror fun a rest c' h hc' => ?_
  rw [hok a rest h]
  exact follows_pure hc' _

theorem follows_fail (hc : c.Bounded ts) (fault : Fault) : Follows ts low (fail fault : Run α) c (.error fault) :=
  ⟨c, rfl, hc⟩

theorem follows_failAt {place : Nat} (hc : c.Bounded ts) (h : ts.drop place = toks) (cause : ParseError.Cause) :
    Follows ts low (failAt ts place cause : Run α) c (.error ⟨cause, toks⟩) := h ▸ follows_fail hc _

theorem follows_refuse (h : c.At ts low' toks) (cause : Option Token → ParseError.Cause) :
    Follows ts low (refuse ts cause : Run α) c (Grammar.refuse cause toks) := by
  refine ⟨c, ?_, h.sound.toBounded⟩
  show some (Except.error (Fault.mk (cause ts[c.place]?) (ts.drop c.place)), c) = _
  rw [h.head?, h.drop]

/-! ## Looking and taking -/

theorem run_peek (h : c.At ts low toks) (i : Nat) : (peek ts i).run c = some (.ok toks[i]?, c) := by
  rw [← h.getElem?]
  rfl

theorem follows_peek {k : Option Token → Run β} {i : Nat} (h : c.At ts low' toks)
    (hk : Follows ts low (k toks[i]?) c z) : Follows ts low (peek ts i >>= k) c z :=
  hk.congr (bind_ok (run_peek h i))

theorem run_advance (h : c.At ts low (t :: rest)) :
    (advance ts).run c = some (.ok ⟨some t, c.place⟩, c.next t) := by
  unfold advance Cursor.next
  simp only [h.head?, List.head?_cons, if_pos h.lt_length]

theorem run_advance_end (h : ts.drop c.place = []) :
    (advance ts).run c = some (.ok ⟨none, c.place⟩, c.atEnd) := by
  have hle := List.drop_eq_nil_iff.1 h
  unfold advance Cursor.atEnd
  simp only [List.getElem?_eq_none hle, if_neg (Nat.not_lt.2 hle)]

theorem run_begin (h : c.At ts low (t :: rest)) :
    (begin ts).run c = some (.ok ⟨some t, c.place⟩, c.begun.next t) := by
  unfold begin advance Cursor.next Cursor.begun
  simp only [h.head?, List.head?_cons, if_pos h.lt_length]

/-- A token is taken. -/
theorem follows_advance {k : Taken → Run β} (h : c.At ts low' (t :: rest))
    (hk : (c.next t).At ts (c.place + 1) rest → Follows ts low (k ⟨some t, c.place⟩) (c.next t) z) :
    Follows ts low (advance ts >>= k) c z := (hk h.next).congr (bind_ok (run_advance h))

/-- The first token of an operand or a link is taken. -/
theorem follows_begin {k : Taken → Run β} (h : c.At ts low' (t :: rest))
    (hk : (c.begun.next t).At ts (c.place + 1) rest → Follows ts low (k ⟨some t, c.place⟩) (c.begun.next t) z) :
    Follows ts low (begin ts >>= k) c z := (hk h.begun).congr (bind_ok (run_begin h))

/-- What is taken is refused. -/
theorem follows_refused {x : Run Taken} {k : Taken → Run β} (h : c.At ts low' toks)
    (hx : x.run c = some (.ok ⟨toks.head?, c.place⟩, c')) (hc' : c'.Bounded ts)
    (cause : Option Token → ParseError.Cause)
    (hk : ∀ place, k ⟨toks.head?, place⟩ = refuseTaken ts ⟨toks.head?, place⟩ cause) :
    Follows ts low (x >>= k) c (Grammar.refuse cause toks) := by
  refine ⟨c', ?_, hc'⟩
  rw [bind_ok hx, hk, ← h.drop]
  rfl

theorem follows_advance_refused {k : Taken → Run β} (h : c.At ts low' toks)
    (cause : Option Token → ParseError.Cause)
    (hk : ∀ place, k ⟨toks.head?, place⟩ = refuseTaken ts ⟨toks.head?, place⟩ cause) :
    Follows ts low (advance ts >>= k) c (Grammar.refuse cause toks) := by
  cases toks with
  | nil => exact follows_refused h (run_advance_end h.drop) h.sound.atEnd cause hk
  | cons t rest => exact follows_refused h (run_advance h) h.next.sound.toBounded cause hk

theorem follows_begin_refused {k : Taken → Run β} (h : c.At ts low' toks)
    (cause : Option Token → ParseError.Cause)
    (hk : ∀ place, k ⟨toks.head?, place⟩ = refuseTaken ts ⟨toks.head?, place⟩ cause) :
    Follows ts low (begin ts >>= k) c (Grammar.refuse cause toks) := by
  cases toks with
  | nil => exact follows_refused h (run_advance_end (c := c.begun) h.drop) h.sound.begunAtEnd cause hk
  | cons t rest => exact follows_refused h (run_begin h) h.begun.sound.toBounded cause hk

/-- A token that has to stand next is taken. -/
theorem follows_expect {k : Unit → Run β} {wanted : Token} {isWanted : Token → Bool}
    (h : c.At ts low' (t :: rest)) (hwanted : isWanted t = true)
    (hk : (c.next t).At ts (c.place + 1) rest → Follows ts low (k ()) (c.next t) z) :
    Follows ts low (expect ts wanted isWanted >>= k) c z := by
  have hexpect : (expect ts wanted isWanted).run c = some (.ok (), c.next t) := by
    rw [expect, bind_ok (run_peek h 0)]
    show (if isWanted t = true then _ else _ : Run Unit).run c = _
    rw [if_pos hwanted, bind_ok (run_advance h)]
    rfl
  exact (hk h.next).congr (bind_ok hexpect)

/-- What stands in the place of a token that has to stand there is refused. -/
theorem follows_expect_refused {k : Unit → Run β} {wanted : Token} {isWanted : Token → Bool}
    (h : c.At ts low' toks) (hother : toks.head?.any isWanted = false) :
    Follows ts low (expect ts wanted isWanted >>= k) c (Grammar.refuse (.expected wanted) toks) := by
  have hrefused : (expect ts wanted isWanted).run c =
      some (.error ⟨.expected wanted toks.head?, toks⟩, c) := by
    rw [expect, bind_ok (run_peek h 0), ← List.head?_eq_getElem?, hother]
    show some (Except.error (Fault.mk (.expected wanted ts[c.place]?) (ts.drop c.place)), c) = _
    rw [h.head?, h.drop]
  exact ⟨c, bind_error hrefused, h.sound.toBounded⟩

end Run

end Grammar

end JsonQuery
