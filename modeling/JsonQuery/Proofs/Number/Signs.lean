import JsonQuery.Library.Strings
import JsonQuery.Proofs.Decimal.Numeral
import JsonQuery.Proofs.Eval.Result
import JsonQuery.Proofs.Number.Integers
import JsonQuery.Proofs.Text.Blank

/-!
# Signs of integers in text

An integer may be written with commas between its digits and with one sign: in front, behind, or as the
parentheses of a negative amount.

* `Number.Grouped` — a numeral with commas between its digits.
* `Number.Signed` — a text that gives a numeral at most one sign; `Number.Marks` — a text that carries a number of
  sign marks around it.
* `Number.read?_signed`, `Number.read?_marks` — the first is the integer, and with two marks or more nothing is
  read.
* `Library.toNumber_integers` — so does `to_number`, which also inverts `to_string` on integers.
-/

namespace JsonQuery

namespace Number

variable {c : Char} {n k : Nat} {d t cs blanks front back : List Char}

/-! ## Definitions -/

/-- The numeral of a number with commas between its digits. -/
structure Grouped (n : Nat) (d : List Char) : Prop where
  digits : d.filter (· != ',') = Text.writeNat n
  starts : d.head? ≠ some ','
  ends : d.getLast? ≠ some ','

/-- The two signs. -/
def IsSign (c : Char) : Prop := c = '+' ∨ c = '-'

/-- A text that gives `d` at most one sign, and whether that is a minus. -/
inductive Signed (d : List Char) : Bool → List Char → Prop where
  | plain : Signed d false d
  | before (c : Char) (hsign : IsSign c) : Signed d (c == '-') (c :: d)
  | behind (blanks : List Char) (c : Char) (hblanks : ∀ b ∈ blanks, Text.isBlank b = true) (hsign : IsSign c) :
      Signed d (c == '-') (d ++ (blanks ++ [c]))
  | around (front back : List Char) (hfront : ∀ b ∈ front, Text.isBlank b = true)
      (hback : ∀ b ∈ back, Text.isBlank b = true) : Signed d true ('(' :: (front ++ (d ++ (back ++ [')']))))

/-- A text that carries `k` sign marks around `d`, with any blanks between them. -/
inductive Marks (d : List Char) : Nat → List Char → Prop where
  | none : Marks d 0 d
  | before (k : Nat) (c : Char) (blanks t : List Char) (hsign : IsSign c)
      (hblanks : ∀ b ∈ blanks, Text.isBlank b = true) (ht : Marks d k t) : Marks d (k + 1) (c :: (blanks ++ t))
  | behind (k : Nat) (c : Char) (blanks t : List Char) (hsign : IsSign c)
      (hblanks : ∀ b ∈ blanks, Text.isBlank b = true) (ht : Marks d k t) : Marks d (k + 1) (t ++ (blanks ++ [c]))
  | around (k : Nat) (front back t : List Char) (hfront : ∀ b ∈ front, Text.isBlank b = true)
      (hback : ∀ b ∈ back, Text.isBlank b = true) (ht : Marks d k t) :
      Marks d (k + 1) ('(' :: (front ++ (t ++ (back ++ [')']))))

/-- A text with a start and an end that are not blank, without exponent marks. -/
structure Tight (cs : List Char) : Prop where
  nonempty : cs ≠ []
  starts : ∀ c ∈ cs.head?, Text.isBlank c = false ∧ c ≠ ','
  ends : ∀ c ∈ cs.getLast?, Text.isBlank c = false
  unmarked : ∀ c ∈ cs, Decimal.isMark c = false

namespace IsSign

variable (h : IsSign c)
include h

theorem not_blank : Text.isBlank c = false := by rcases h with rfl | rfl <;> decide

theorem not_mark : Decimal.isMark c = false := by rcases h with rfl | rfl <;> decide

theorem not_numeric : Text.isNumeric c = false := by rcases h with rfl | rfl <;> decide

theorem ne_comma : c ≠ ',' := by rcases h with rfl | rfl <;> decide

theorem ne_open : c ≠ '(' := by rcases h with rfl | rfl <;> decide

theorem ne_close : c ≠ ')' := by rcases h with rfl | rfl <;> decide

end IsSign

theorem isMark_iff : Decimal.isMark c = true ↔ c = 'e' ∨ c = 'E' := by simp [Decimal.isMark]

theorem not_mark_of_isBlank (h : Text.isBlank c = true) : Decimal.isMark c = false := by
  rw [Bool.eq_false_iff, Ne, isMark_iff]
  rintro (rfl | rfl) <;> exact absurd h (by decide)

namespace Digit

variable (h : Text.isDigit c = true)
include h

theorem not_blank : Text.isBlank c = false := by
  have hrange : 48 ≤ c.toNat ∧ c.toNat ≤ 57 := by
    simpa [Text.isDigit, Char.le_def, UInt32.le_iff_toNat_le] using h
  unfold Text.isBlank
  simp
  omega

theorem not_mark : Decimal.isMark c = false := by
  rw [Bool.eq_false_iff, Ne, isMark_iff]
  rintro (rfl | rfl) <;> exact absurd h (by decide)

theorem not_sign : ¬ IsSign c := by rintro (rfl | rfl) <;> exact absurd h (by decide)

theorem ne_open : c ≠ '(' := by
  rintro rfl
  exact absurd h (by decide)

end Digit

/-! ## Numerals with commas -/

namespace Grouped

variable (hd : Grouped n d)
include hd

theorem isDigit_of_mem (hc : c ∈ d) (hne : c ≠ ',') : Text.isDigit c = true := by
  have hmem : c ∈ d.filter (· != ',') := List.mem_filter.2 ⟨hc, by simpa using hne⟩
  rw [hd.digits] at hmem
  exact Text.isDigit_of_mem_writeNat hmem

theorem nonempty : d ≠ [] := by
  rintro rfl
  exact Text.writeNat_ne_nil n hd.digits.symm

theorem isDigit_head (hc : c ∈ d.head?) : Text.isDigit c = true :=
  hd.isDigit_of_mem (List.mem_of_mem_head? hc) (by rintro rfl; exact hd.starts hc)

theorem isDigit_last (hc : c ∈ d.getLast?) : Text.isDigit c = true :=
  hd.isDigit_of_mem (List.mem_of_getLast? hc) (by rintro rfl; exact hd.ends hc)

theorem tight : Tight d where
  nonempty := hd.nonempty
  starts c hc := ⟨Digit.not_blank (hd.isDigit_head hc), by rintro rfl; exact hd.starts hc⟩
  ends c hc := Digit.not_blank (hd.isDigit_last hc)
  unmarked c hc := by
    by_cases hcomma : c = ','
    · subst hcomma
      rfl
    · exact Digit.not_mark (hd.isDigit_of_mem hc hcomma)

theorem startsWithSign_eq : startsWithSign d = false := by
  obtain ⟨c, more, rfl⟩ := List.exists_cons_of_ne_nil hd.nonempty
  have hsign := Digit.not_sign (hd.isDigit_head (c := c) rfl)
  simpa [startsWithSign, IsSign, not_or] using hsign

end Grouped

/-! ## Texts with marks -/

theorem Tight.before (ht : Tight t) (hsign : IsSign c) (hblanks : ∀ b ∈ blanks, Text.isBlank b = true) :
    Tight (c :: (blanks ++ t)) := by
  refine ⟨List.cons_ne_nil _ _, fun b hb => ?_, fun b hb => ?_, ?_⟩
  · cases hb
    exact ⟨hsign.not_blank, hsign.ne_comma⟩
  · rw [← List.cons_append, List.getLast?_append_of_ne_nil _ ht.nonempty] at hb
    exact ht.ends b hb
  · simp only [List.forall_mem_cons, List.forall_mem_append]
    exact ⟨hsign.not_mark, fun b hb => not_mark_of_isBlank (hblanks b hb), ht.unmarked⟩

theorem Tight.behind (ht : Tight t) (hsign : IsSign c) (hblanks : ∀ b ∈ blanks, Text.isBlank b = true) :
    Tight (t ++ (blanks ++ [c])) := by
  refine ⟨by simp, fun b hb => ?_, fun b hb => ?_, ?_⟩
  · rw [List.head?_append_of_ne_nil _ ht.nonempty] at hb
    exact ht.starts b hb
  · rw [← List.append_assoc, List.getLast?_concat] at hb
    cases hb
    exact hsign.not_blank
  · simp only [List.forall_mem_append, List.forall_mem_singleton]
    exact ⟨ht.unmarked, fun b hb => not_mark_of_isBlank (hblanks b hb), hsign.not_mark⟩

theorem Tight.around (ht : Tight t) (hfront : ∀ b ∈ front, Text.isBlank b = true)
    (hback : ∀ b ∈ back, Text.isBlank b = true) : Tight ('(' :: (front ++ (t ++ (back ++ [')'])))) := by
  refine ⟨List.cons_ne_nil _ _, fun b hb => ?_, fun b hb => ?_, ?_⟩
  · cases hb
    decide
  · rw [← List.append_assoc t, ← List.append_assoc front, ← List.cons_append, List.getLast?_concat] at hb
    cases hb
    decide
  · simp only [List.forall_mem_cons, List.forall_mem_append]
    exact ⟨by decide, fun b hb => not_mark_of_isBlank (hfront b hb), ht.unmarked,
      fun b hb => not_mark_of_isBlank (hback b hb), by decide, nofun⟩

theorem Marks.tight (h : Marks d k t) (hd : Grouped n d) : Tight t := by
  induction h with
  | none => exact hd.tight
  | before k c blanks t hsign hblanks _ ih => exact ih.before hsign hblanks
  | behind k c blanks t hsign hblanks _ ih => exact ih.behind hsign hblanks
  | around k front back t hfront hback _ ih => exact ih.around hfront hback

theorem Signed.tight {negative : Bool} (h : Signed d negative t) (hd : Grouped n d) : Tight t := by
  cases h with
  | plain => exact hd.tight
  | before c hsign => exact (hd.tight.before hsign nofun : Tight (c :: ([] ++ d)))
  | behind blanks c hblanks hsign => exact hd.tight.behind hsign hblanks
  | around front back hfront hback => exact hd.tight.around hfront hback

/-- Behind a mark the text starts with a sign, or there is a mark further on. -/
theorem Marks.marked (h : Marks d (k + 1) t) (hd : Grouped n d) : startsWithSign t = true ∨
    ∃ b more c, t = b :: more ∧ c ∈ more ∧ c ≠ ',' ∧ Text.isNumeric c = false := by
  cases h with
  | before _ c blanks t hsign hblanks ht =>
    left
    rcases hsign with rfl | rfl <;> rfl
  | behind _ c blanks t hsign hblanks ht =>
    obtain ⟨b, more, rfl⟩ := List.exists_cons_of_ne_nil (ht.tight hd).nonempty
    exact .inr ⟨b, more ++ (blanks ++ [c]), c, rfl, by simp, hsign.ne_comma, hsign.not_numeric⟩
  | around _ front back t hfront hback ht =>
    exact .inr ⟨'(', front ++ (t ++ (back ++ [')'])), ')', rfl, by simp, by decide, by decide⟩

/-! ## Accounting forms -/

theorem stripLast?_concat (c b : Char) (cs : List Char) :
    stripLast? c (cs ++ [b]) = if b = c then some cs else none := by
  unfold stripLast?
  rw [List.getLast?_concat, List.dropLast_concat]
  simp only [Option.some.injEq]

theorem stripLast?_eq_none (h : ∀ b ∈ cs.getLast?, b ≠ c) : stripLast? c cs = none :=
  if_neg fun hc => h c hc rfl

/-- Without a parenthesis in front there is none around the text. -/
theorem parenthesized?_eq_none (h : ∀ b ∈ cs.head?, b ≠ '(') : parenthesized? cs = none := by
  unfold parenthesized?
  split
  · exact absurd rfl (h '(' rfl)
  · rfl

theorem parenthesized?_concat (h : c ≠ ')') (cs : List Char) : parenthesized? (cs ++ [c]) = none := by
  unfold parenthesized?
  split
  · rename_i r heq
    refine stripLast?_eq_none fun b hb => ?_
    have hlast : (cs ++ [c]).getLast? = some b := by
      rw [heq, List.getLast?_cons, hb]
      rfl
    rw [List.getLast?_concat] at hlast
    cases hlast
    exact h
  · rfl

/-- A sign behind the text is its sign. -/
theorem accountingForm_concat (hsign : IsSign c) (cs : List Char) :
    accountingForm (cs ++ [c]) = (Text.trimEnd cs, some c) := by
  unfold accountingForm
  rw [parenthesized?_concat hsign.ne_close]
  simp only [stripLast?_concat]
  rcases hsign with rfl | rfl <;> rfl

theorem accountingForm_behind (hsign : IsSign c) (hblanks : ∀ b ∈ blanks, Text.isBlank b = true) (ht : Tight t) :
    accountingForm (t ++ (blanks ++ [c])) = (t, some c) := by
  rw [← List.append_assoc, accountingForm_concat hsign, Text.trimEnd_append hblanks ht.ends]

theorem accountingForm_around (hfront : ∀ b ∈ front, Text.isBlank b = true)
    (hback : ∀ b ∈ back, Text.isBlank b = true) (ht : Tight t) :
    accountingForm ('(' :: (front ++ (t ++ (back ++ [')'])))) = (t, some '-') := by
  have hinner : parenthesized? ('(' :: (front ++ (t ++ (back ++ [')'])))) = some (front ++ (t ++ back)) := by
    rw [← List.append_assoc t, ← List.append_assoc front]
    exact (stripLast?_concat ')' ')' _).trans (if_pos rfl)
  unfold accountingForm
  rw [hinner]
  simp only [Text.trim_append hfront hback (fun c hc => (ht.starts c hc).1) ht.ends ht.nonempty]

/-- A text without parenthesis in front and without sign behind is left as it is. -/
theorem accountingForm_plain (cs : List Char) (hhead : ∀ b ∈ cs.head?, b ≠ '(')
    (hlast : ∀ b ∈ cs.getLast?, ¬ IsSign b) : accountingForm cs = (cs, none) := by
  unfold accountingForm
  rw [parenthesized?_eq_none hhead, stripLast?_eq_none fun b hb heq => hlast b hb (.inr heq),
    stripLast?_eq_none fun b hb heq => hlast b hb (.inl heq)]

/-- What a text without exponent marks is brought to. -/
theorem canonicalSign?_eq {body : List Char} {sign : Option Char} (hform : accountingForm cs = (body, sign))
    (hsign : sign = none ∨ startsWithSign body = false) (hne : body.filter (· != ',') ≠ [])
    (hunmarked : ∀ c ∈ body, Decimal.isMark c = false) : canonicalSign? cs =
      some (if sign = some '-' then '-' :: body.filter (· != ',') else body.filter (· != ',')) := by
  have htest : ¬ (sign.isSome && startsWithSign body) = true := by
    rcases hsign with rfl | hsign
    · simp
    · simp [hsign]
  obtain ⟨last, hlast⟩ := Option.ne_none_iff_exists'.1 (mt List.getLast?_eq_none_iff.1 hne)
  have hmark : ¬ Decimal.isMark last = true := by
    simp [hunmarked last (List.mem_of_mem_filter (List.mem_of_getLast? hlast))]
  unfold canonicalSign?
  rw [hform]
  simp only [if_neg htest, hlast, if_neg hmark]

/-! ## One sign -/

/-- A text that gives a numeral at most one sign is brought to the numeral behind that sign. -/
theorem Signed.canonicalSign? {negative : Bool} (h : Signed d negative t) (hd : Grouped n d) :
    ∃ s, canonicalSign? t = some s ∧ Text.unsigned s = Text.writeNat n ∧ (s.head? == some '-') = negative := by
  have hdigits := hd.digits
  have hne : d.filter (· != ',') ≠ [] := hdigits ▸ Text.writeNat_ne_nil n
  have hplain : ∀ c ∈ (Text.writeNat n).head?, Text.isDigit c = true := fun c hc =>
    Text.isDigit_of_mem_writeNat (List.mem_of_mem_head? hc)
  have hunsigned := Text.unsigned_of_isDigit hplain
  have hhead : ((Text.writeNat n).head? == some '-') = false := by
    rw [beq_eq_false_iff_ne]
    exact fun hc => absurd (hplain '-' hc) (by decide)
  cases h with
  | plain =>
    have hform := accountingForm_plain d (fun b hb => Digit.ne_open (hd.isDigit_head hb))
      fun b hb => Digit.not_sign (hd.isDigit_last hb)
    exact ⟨_, canonicalSign?_eq hform (.inl rfl) hne hd.tight.unmarked, by simp [hdigits, hunsigned],
      by simpa [hdigits] using hhead⟩
  | before c hsign =>
    have hform := accountingForm_plain (c :: d) (fun b hb => by cases hb; exact hsign.ne_open) fun b hb => by
      rw [← List.singleton_append, List.getLast?_append_of_ne_nil _ hd.nonempty] at hb
      exact Digit.not_sign (hd.isDigit_last hb)
    have hfilter : (c :: d).filter (· != ',') = c :: Text.writeNat n := by
      rw [List.filter_cons_of_pos (by simpa using hsign.ne_comma), hdigits]
    refine ⟨_, canonicalSign?_eq hform (.inl rfl) (hfilter ▸ List.cons_ne_nil _ _)
      (List.forall_mem_cons.2 ⟨hsign.not_mark, hd.tight.unmarked⟩), ?_⟩
    rw [hfilter]
    rcases hsign with rfl | rfl <;> exact ⟨rfl, rfl⟩
  | behind blanks c hblanks hsign =>
    have hform := accountingForm_behind hsign hblanks hd.tight
    refine ⟨_, canonicalSign?_eq hform (.inr hd.startsWithSign_eq) hne hd.tight.unmarked, ?_⟩
    rw [hdigits]
    rcases hsign with rfl | rfl
    · exact ⟨hunsigned, hhead⟩
    · exact ⟨rfl, rfl⟩
  | around front back hfront hback =>
    have hform := accountingForm_around hfront hback hd.tight
    refine ⟨_, canonicalSign?_eq hform (.inr hd.startsWithSign_eq) hne hd.tight.unmarked, ?_⟩
    rw [hdigits]
    exact ⟨rfl, rfl⟩

/-- The numeral of an integer behind its sign is read as the integer. -/
theorem read?_canonical {s : List Char} {negative : Bool} (hunsigned : Text.unsigned s = Text.writeNat n)
    (hnegative : (s.head? == some '-') = negative) (h : InRange (if negative then -(n : Int) else n)) :
    (match Decimal.read? s with
      | some d => ofDecimal d
      | none =>
        match Decimal.readScientific? s with
        | some d => ofDecimal d
        | none => (Double.read? s).map double) = some (integer (if negative then -(n : Int) else n) h) := by
  have hsize : n < 2 ^ 96 := by
    have hbound := natAbs_le_of_inRange h
    have habs : (if negative then -(n : Int) else n).natAbs = n := by split <;> omega
    omega
  obtain ⟨d, hd, hsign, hmantissa, hscale⟩ := Decimal.read?_digits s
    (fun c hc => Text.isDigit_of_mem_writeNat (hunsigned ▸ hc)) (hunsigned ▸ Text.writeNat_ne_nil n)
    (by rw [hunsigned, Text.ofDigits_writeNat]; exact hsize)
  have hsigned : d.signed = if negative then -(n : Int) else n := by
    rw [Decimal.signed, hsign, hnegative, hmantissa, hunsigned, Text.ofDigits_writeNat]
  rw [hd]
  refine (ofDecimal_whole hscale (hsigned ▸ h)).trans ?_
  congr

/-- **A numeral with at most one sign is the integer that it writes.** -/
theorem read?_signed {negative : Bool} (hd : Grouped n d) (ht : Signed d negative t)
    (hfront : ∀ b ∈ front, Text.isBlank b = true) (hback : ∀ b ∈ back, Text.isBlank b = true)
    (h : InRange (if negative then -(n : Int) else n)) :
    read? (front ++ (t ++ back)) = some (integer (if negative then -(n : Int) else n) h) := by
  have htight := ht.tight hd
  obtain ⟨s, hs, hunsigned, hnegative⟩ := ht.canonicalSign? hd
  unfold read?
  rw [Text.trim_append hfront hback (fun c hc => (htight.starts c hc).1) htight.ends htight.nonempty, hs]
  exact read?_canonical hunsigned hnegative h

/-! ## Several marks -/

/-- A sign behind a text that starts with one is refused. -/
theorem read?_twice {text body : List Char} {sign : Char}
    (hform : accountingForm (Text.trim text) = (body, some sign)) (hstarts : startsWithSign body = true) :
    read? text = none := by
  have hnone : canonicalSign? (Text.trim text) = none := by
    unfold canonicalSign?
    rw [hform]
    exact if_pos (by simp [hstarts])
  unfold read?
  rw [hnone]
  rfl

/-- A mark that is left inside the text is refused. -/
theorem read?_leftover {text more : List Char} {b : Char} {sign : Option Char} (hcomma : b ≠ ',')
    (hform : accountingForm (Text.trim text) = (b :: more, sign))
    (hunmarked : ∀ c ∈ b :: more, Decimal.isMark c = false) (hmem : c ∈ more) (hc : c ≠ ',')
    (hother : Text.isNumeric c = false) : read? text = none := by
  by_cases hsign : sign = none ∨ startsWithSign (b :: more) = false
  · have hfilter : (b :: more).filter (· != ',') = b :: more.filter (· != ',') :=
      List.filter_cons_of_pos (by simpa using hcomma)
    have hleft : c ∈ more.filter (· != ',') := List.mem_filter.2 ⟨hmem, by simpa using hc⟩
    have hcanonical := canonicalSign?_eq hform hsign (hfilter ▸ List.cons_ne_nil _ _) hunmarked
    rw [hfilter] at hcanonical
    have hkept : ∀ c ∈ b :: more.filter (· != ','), Decimal.isMark c = false := fun c hc =>
      hunmarked c (List.mem_of_mem_filter (hfilter ▸ hc))
    obtain ⟨s, hs, hmark, hin⟩ : ∃ s, canonicalSign? (Text.trim text) = some s ∧
        (∀ c ∈ s, Decimal.isMark c = false) ∧ c ∈ Text.unsigned s := by
      refine ⟨_, hcanonical, ?_⟩
      split
      · exact ⟨List.forall_mem_cons.2 ⟨rfl, hkept⟩, List.mem_cons_of_mem _ hleft⟩
      · exact ⟨hkept, Text.mem_unsigned_tail hleft⟩
    obtain ⟨hdecimal, hscientific, hdouble⟩ := readers_refuse hmark hin hother
    unfold read?
    rw [hs, Option.bind_eq_bind, Option.bind_some, hdecimal, hscientific, hdouble]
    rfl
  · rw [not_or] at hsign
    obtain ⟨c, rfl⟩ := Option.ne_none_iff_exists'.1 hsign.1
    exact read?_twice hform (by simpa using hsign.2)

/-- A mark around a text that carries one already is refused, whatever sign it gives. -/
theorem read?_marked {text : List Char} {sign : Char} (hd : Grouped n d) (ht : Marks d (k + 1) t)
    (hform : accountingForm (Text.trim text) = (t, some sign)) : read? text = none := by
  have htight := ht.tight hd
  rcases ht.marked hd with hstarts | ⟨b, more, c, rfl, hmem, hcomma, hother⟩
  · exact read?_twice hform hstarts
  · exact read?_leftover (htight.starts b rfl).2 hform htight.unmarked hmem hcomma hother

theorem Marks.exists_mem (h : Marks d (k + 1) t) (hd : Grouped n d) :
    ∃ c ∈ t, c ≠ ',' ∧ Text.isNumeric c = false := by
  rcases h.marked hd with hstarts | ⟨b, more, c, rfl, hmem, hc⟩
  · cases t with
    | nil => cases hstarts
    | cons c t =>
      have hsign : IsSign c := by simpa [startsWithSign, IsSign] using hstarts
      exact ⟨c, by simp, hsign.ne_comma, hsign.not_numeric⟩
  · exact ⟨c, List.mem_cons_of_mem _ hmem, hc⟩

/-- **With two marks or more nothing is read.** -/
theorem read?_marks (hd : Grouped n d) (ht : Marks d (k + 2) t) (hfront : ∀ b ∈ front, Text.isBlank b = true)
    (hback : ∀ b ∈ back, Text.isBlank b = true) : read? (front ++ (t ++ back)) = none := by
  have htight := ht.tight hd
  have htrim := Text.trim_append hfront hback (fun c hc => (htight.starts c hc).1) htight.ends htight.nonempty
  cases ht with
  | before _ c blanks t hsign hblanks ht =>
    obtain ⟨init, last, rfl⟩ := (List.eq_nil_or_concat' t).resolve_left (ht.tight hd).nonempty
    by_cases hlast : IsSign last
    · -- the sign behind is taken first, and the one in front is then too much
      have hform := accountingForm_concat hlast (c :: (blanks ++ init))
      rw [Text.trimEnd_cons hsign.not_blank, List.cons_append, List.append_assoc] at hform
      refine read?_twice (htrim ▸ hform) ?_
      rcases hsign with rfl | rfl <;> rfl
    · have hform := accountingForm_plain (c :: (blanks ++ (init ++ [last])))
        (fun b hb => by cases hb; exact hsign.ne_open) fun b hb => by
          rw [← List.append_assoc, ← List.cons_append, List.getLast?_concat] at hb
          cases hb
          exact hlast
      obtain ⟨x, hmem, hx, hother⟩ := ht.exists_mem hd
      rw [← htrim] at hform
      exact read?_leftover hsign.ne_comma (hform.trans (by rw [htrim])) htight.unmarked
        (List.mem_append_right _ hmem) hx hother
  | behind _ c blanks t hsign hblanks ht =>
    exact read?_marked hd ht (htrim ▸ accountingForm_behind hsign hblanks (ht.tight hd))
  | around _ inner outer t hinner houter ht =>
    exact read?_marked hd ht (htrim ▸ accountingForm_around hinner houter (ht.tight hd))

end Number

namespace Library

open Number

theorem toNumber_string (s : String) : (toNumber [.value (.string s)]).result = match Number.read? s.toList with
    | some n => .ok (.number n)
    | none => .error (.type (.notNumeric s)) := by
  have hbody : toNumber [.value (.string s)] = .ofExcept (match Number.read? s.toList with
      | some n => .ok (.number n)
      | none => .error (.type (.notNumeric s))) := rfl
  rw [hbody, Traced.result_ofExcept]

theorem toText_integer {i : Int} (h : InRange i) :
    (toText [.value (.number (integer i h))]).result = .ok (.string (String.ofList (Text.writeInt i))) := rfl

theorem grouped_writeNat (n : Nat) : Grouped n (Text.writeNat n) := by
  have hcomma : ∀ c ∈ Text.writeNat n, c ≠ ',' := by
    rintro c hc rfl
    exact absurd (Text.isDigit_of_mem_writeNat hc) (by decide)
  exact ⟨List.filter_eq_self.2 fun c hc => by simpa using hcomma c hc,
    fun h => hcomma _ (List.mem_of_mem_head? h) rfl, fun h => hcomma _ (List.mem_of_getLast? h) rfl⟩

/-- The text of an integer is read as the integer. -/
theorem read?_writeInt {i : Int} (h : InRange i) : read? (Text.writeInt i) = some (integer i h) := by
  have hgrouped := grouped_writeNat i.natAbs
  obtain ⟨negative, hsigned, hvalue⟩ : ∃ negative, Signed (Text.writeNat i.natAbs) negative (Text.writeInt i) ∧
      (if negative then -(i.natAbs : Int) else i.natAbs) = i := by
    unfold Text.writeInt
    split
    · exact ⟨true, .before '-' (.inr rfl), by rw [if_pos rfl]; omega⟩
    · exact ⟨false, .plain, by rw [if_neg Bool.false_ne_true]; omega⟩
  have hread := read?_signed hgrouped hsigned (List.forall_mem_nil _) (List.forall_mem_nil _) (hvalue.symm ▸ h)
  rw [List.nil_append, List.append_nil] at hread
  rw [hread]
  congr

/-- **Integers in text are converted to the integers that they write.**  A numeral of up to 2^63 with any commas
between its digits, with at most one sign and with blanks around all this is that integer; with two sign marks or
more it is none; and the text of an integer is that integer. -/
theorem toNumber_integers :
    (∀ n d negative t front back, n ≤ 2 ^ 63 → Grouped n d → Signed d negative t →
      (∀ b ∈ front, Text.isBlank b = true) → (∀ b ∈ back, Text.isBlank b = true) →
      ∃ h, (toNumber [.value (.string (String.ofList (front ++ (t ++ back))))]).result =
        .ok (.number (integer (if negative then -(n : Int) else n) h))) ∧
    (∀ n d k t front back, Grouped n d → Marks d k t → 2 ≤ k →
      (∀ b ∈ front, Text.isBlank b = true) → (∀ b ∈ back, Text.isBlank b = true) →
      (toNumber [.value (.string (String.ofList (front ++ (t ++ back))))]).result =
        .error (.type (.notNumeric (String.ofList (front ++ (t ++ back)))))) ∧
    (∀ i h, ∃ s, (toText [.value (.number (integer i h))]).result = .ok (.string s) ∧
      (toNumber [.value (.string s)]).result = .ok (.number (integer i h))) := by
  refine ⟨fun n d negative t front back hn hd ht hfront hback => ?_,
    fun n d k t front back hd ht hk hfront hback => ?_, fun i h => ⟨_, toText_integer h, ?_⟩⟩
  · have hrange : InRange (if negative then -(n : Int) else n) := by
      have hbounds : -Int.pow 2 63 ≤ (if negative then -(n : Int) else n) ∧
          (if negative then -(n : Int) else n) < Int.pow 2 64 := by
        have hlow : Int.pow 2 63 = 9223372036854775808 := rfl
        have hhigh : Int.pow 2 64 = 18446744073709551616 := rfl
        split <;> omega
      exact hbounds
    refine ⟨hrange, ?_⟩
    rw [toNumber_string, String.toList_ofList, read?_signed hd ht hfront hback hrange]
  · obtain ⟨j, rfl⟩ := Nat.exists_eq_add_of_le' hk
    rw [toNumber_string, String.toList_ofList, read?_marks hd ht hfront hback]
  · rw [toNumber_string, String.toList_ofList, read?_writeInt h]

/-- A negative amount in parentheses with blanks in and around them, the same with a sign as well, and the least
integer. -/
theorem toNumber_integers_amount :
    let amount := ['1', ',', '2', '3', '4']
    let around := ['(', ' ', '1', ',', '2', '3', '4', ' ', ')']
    let twice := ['(', '1', ',', '2', '3', '4', ' ', '-', ')']
    (1234 ≤ 2 ^ 63 ∧ Grouped 1234 amount ∧ Signed amount true around ∧
      ∃ h, (toNumber [.value (.string (String.ofList (' ' :: around)))]).result =
        .ok (.number (integer (-1234) h))) ∧
    (Grouped 1234 amount ∧ Marks amount 2 twice ∧
      (toNumber [.value (.string (String.ofList twice))]).result =
        .error (.type (.notNumeric (String.ofList twice)))) ∧
    (∃ s, (toText [.value (.number (integer (-9223372036854775808) (by decide)))]).result = .ok (.string s) ∧
      (toNumber [.value (.string s)]).result = .ok (.number (integer (-9223372036854775808) (by decide)))) := by
  intro amount around twice
  have hgrouped : Grouped 1234 amount := ⟨by decide, by decide, by decide⟩
  have hspace : ∀ b ∈ [' '], Text.isBlank b = true := List.forall_mem_singleton.2 rfl
  have hsigned : Signed amount true around := .around [' '] [' '] hspace hspace
  have hmarks : Marks amount 2 twice :=
    .around 1 [] [] _ nofun nofun (.behind 0 '-' [' '] amount (.inr rfl) hspace .none)
  obtain ⟨hone, hmany, htext⟩ := toNumber_integers
  have hread := hone 1234 amount true around [' '] [] (by decide) hgrouped hsigned hspace nofun
  have hrefused := hmany 1234 amount 2 twice [] [] hgrouped hmarks le_rfl nofun nofun
  rw [List.append_nil] at hread hrefused
  exact ⟨⟨by decide, hgrouped, hsigned, hread⟩, ⟨hgrouped, hmarks, hrefused⟩, htext _ (by decide)⟩

end Library

end JsonQuery
