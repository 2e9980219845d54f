import Mathlib
import JsonQuery.Number.Reader

/-!
# Numerals

What the readers of numbers make of a row of digits behind at most one sign, and what they refuse.

* `Text.ofDigits_writeNat` — the numeral of a number writes it.
* `Text.unsigned`, `Text.isNumeric` — a text without its sign, and the characters that may then stand in it.
* `Decimal.read?_digits` — a row of digits with or without a sign is the integer that it writes.
* `Number.readers_refuse` — no reader takes another character, unless there is an exponent mark.
-/

namespace JsonQuery

namespace Text

variable {c : Char} {cs : List Char}

/-! ## Rows of digits -/

theorem ofDigits_writeNat (n : Nat) : ofDigits (writeNat n) = n :=
  Nat.ofDigitChars_toDigits (by decide) (by decide)

theorem writeNat_ne_nil (n : Nat) : writeNat n ≠ [] := Nat.toDigits_ne_nil

theorem isDigit_of_mem_writeNat {n : Nat} (h : c ∈ writeNat n) : isDigit c = true := by
  have hdigit : c.isDigit = true := Nat.isDigit_of_mem_toDigits (by decide) (by decide) h
  simpa [isDigit, Char.isDigit, Char.le_def] using hdigit

/-- A numeral has no zero in front of other digits. -/
theorem writeNat_zero {n : Nat} (h : (writeNat n).head? = some '0') : writeNat n = ['0'] := by
  induction n using Nat.strong_induction_on with
  | _ n ih =>
    have hdigits : writeNat n =
        if n < 10 then [n.digitChar] else writeNat (n / 10) ++ [(n % 10).digitChar] :=
      Nat.toDigits_eq_if (by decide)
    rw [hdigits] at h ⊢
    split_ifs at h ⊢ with hn
    · exact congrArg (fun c => [c]) (Option.some.inj h)
    · rw [List.head?_append_of_ne_nil _ (writeNat_ne_nil _)] at h
      -- the digits in front are no zero, so they do not start with one
      have hzero : n / 10 = 0 := by rw [← ofDigits_writeNat (n / 10), ih _ (by omega) h]; rfl
      omega

theorem isDigit_of_spanDigits {ds rest : List Char} (h : spanDigits cs = (ds, rest)) :
    ∀ c ∈ ds, isDigit c = true := by
  cases h
  exact fun c hc => List.mem_takeWhile_imp hc

/-- Without an exponent mark no exponent is read. -/
theorem readExponent?_unmarked (h : ∀ c ∈ cs, Decimal.isMark c = false) : readExponent? cs = some (0, cs) := by
  cases cs with
  | nil => rfl
  | cons c cs =>
    have hmark : ¬ (c = 'e' ∨ c = 'E') := by simpa [Decimal.isMark] using h c (by simp)
    exact if_neg hmark

/-! ## Behind the sign -/

/-- A text without one sign in front. -/
def unsigned : List Char → List Char
  | '-' :: cs => cs
  | '+' :: cs => cs
  | cs => cs

/-- Whether a character may stand behind the sign of a number without exponent. -/
def isNumeric (c : Char) : Bool := isDigit c || c == '.' || c == '_'

theorem isNumeric_of_isDigit (h : isDigit c = true) : isNumeric c = true := by simp [isNumeric, h]

theorem unsigned_of_ne (hminus : ∀ r, cs ≠ '-' :: r) (hplus : ∀ r, cs ≠ '+' :: r) : unsigned cs = cs := by
  unfold unsigned
  split
  · exact absurd rfl (hminus _)
  · exact absurd rfl (hplus _)
  · rfl

theorem mem_unsigned_tail {d : Char} (h : c ∈ cs) : c ∈ unsigned (d :: cs) := by
  unfold unsigned
  split <;> simp_all

theorem mem_of_mem_unsigned (h : c ∈ unsigned cs) : c ∈ cs := by
  unfold unsigned at h
  split at h
  · exact List.mem_cons_of_mem _ h
  · exact List.mem_cons_of_mem _ h
  · exact h

theorem unsigned_of_isDigit (h : ∀ c ∈ cs.head?, isDigit c = true) : unsigned cs = cs := by
  refine unsigned_of_ne (fun r hr => ?_) (fun r hr => ?_)
  · exact absurd (h '-' (by rw [hr]; rfl)) (by decide)
  · exact absurd (h '+' (by rw [hr]; rfl)) (by decide)

end Text

namespace Decimal

variable {cs : List Char}

open Text (unsigned isNumeric isDigit)

/-- The sign is read apart from what is behind it. -/
theorem read?_eq (cs : List Char) : read? cs =
    (readDigits 0 0 false false (unsigned cs)).bind fun p => ofParts? (cs.head? == some '-') p.1 p.2 := by
  unfold read?
  split
  rename_i negative body hsplit
  have hparts : (cs.head? == some '-') = negative ∧ unsigned cs = body := by
    split at hsplit
    · cases hsplit
      exact ⟨rfl, rfl⟩
    · cases hsplit
      exact ⟨rfl, rfl⟩
    · rename_i hminus hplus
      cases hsplit
      refine ⟨?_, Text.unsigned_of_ne hminus hplus⟩
      cases cs with
      | nil => rfl
      | cons c cs => simpa using fun hc => hminus cs (by rw [hc])
  rw [hparts.1, hparts.2]
  cases readDigits 0 0 false false body <;> rfl

/-- The digits read so far are at most what all digits write. -/
theorem le_foldl_digits (m : Nat) (cs : List Char) : m ≤ cs.foldl (fun n c => 10 * n + Text.digitValue c) m := by
  induction cs generalizing m with
  | nil => exact le_rfl
  | cons c cs ih =>
    have hstep := ih (10 * m + Text.digitValue c)
    rw [List.foldl_cons]
    omega

/-- A row of digits is read into what it writes, while the mantissa has room. -/
theorem readDigits_digits {any : Bool} {m : Nat} (hdigits : ∀ c ∈ cs, isDigit c = true)
    (hany : any = true ∨ cs ≠ []) (hroom : cs.foldl (fun n c => 10 * n + Text.digitValue c) m < 2 ^ 96) :
    readDigits m 0 false any cs = some (cs.foldl (fun n c => 10 * n + Text.digitValue c) m, 0) := by
  induction cs generalizing m any with
  | nil =>
    have htrue : any = true := hany.resolve_right (· rfl)
    rw [readDigits, htrue]
    rfl
  | cons c cs ih =>
    rw [List.foldl_cons] at hroom ⊢
    have hnext : 10 * m + Text.digitValue c < Nat.pow 2 96 := lt_of_le_of_lt (le_foldl_digits _ cs) hroom
    rw [readDigits, if_neg (by simp), if_pos (hdigits c (by simp)), if_pos hnext]
    exact ih (fun d hd => hdigits d (by simp [hd])) (.inl rfl) hroom

/-- **A row of digits is the integer that it writes**, with the sign in front. -/
theorem read?_digits (cs : List Char) (hdigits : ∀ c ∈ unsigned cs, isDigit c = true) (hne : unsigned cs ≠ [])
    (hroom : Text.ofDigits (unsigned cs) < 2 ^ 96) :
    ∃ d, read? cs = some d ∧ d.negative = (cs.head? == some '-') ∧ d.mantissa = Text.ofDigits (unsigned cs) ∧
      d.scale = 0 := by
  rw [read?_eq, readDigits_digits hdigits (.inr hne) hroom, Option.bind_some, ofParts?]
  exact ⟨_, dif_pos ⟨hroom, by omega⟩, rfl, rfl, rfl⟩

/-- Nothing but digits, points and underscores is read. -/
theorem readDigits_numeric {m s : Nat} {point any : Bool} {p : Nat × Nat}
    (h : readDigits m s point any cs = some p) : ∀ c ∈ cs, isNumeric c = true := by
  have hall : ∀ ds : List Char, (ds.all fun d => isDigit d || d == '_') = true → ∀ c ∈ ds, isNumeric c = true := by
    intro ds hds c hc
    have hor := List.all_eq_true.1 hds c hc
    rw [Bool.or_eq_true] at hor
    rcases hor with hdigit | hscore
    · simp [isNumeric, hdigit]
    · simp [isNumeric, hscore]
  induction cs generalizing m s point any with
  | nil => nofun
  | cons c cs ih =>
    rw [List.forall_mem_cons]
    rw [readDigits] at h
    split at h
    · -- beyond the last place
      split at h
      · rename_i hmore
        rw [Bool.and_eq_true] at hmore
        exact ⟨hall [c] (by simpa using hmore.1) c (by simp), hall cs hmore.2⟩
      · cases h
    · split at h
      · rename_i hdigit
        refine ⟨Text.isNumeric_of_isDigit hdigit, ?_⟩
        dsimp only at h
        split at h
        · exact ih h
        · split at h
          · rename_i hmore
            rw [Bool.and_eq_true] at hmore
            exact hall cs hmore.2
          · cases h
      · split at h
        · rename_i hpoint
          exact ⟨by simp [isNumeric, hpoint.1], ih h⟩
        · split at h
          · rename_i hscore
            exact ⟨by simp [isNumeric, hscore.1], ih h⟩
          · cases h

end Decimal

open Text (unsigned isNumeric isDigit)

variable {cs : List Char}

/-- Without an exponent mark, a double is read from digits and points. -/
theorem Double.read?_numeric {x : Double} (hmark : ∀ c ∈ cs, Decimal.isMark c = false)
    (h : Double.read? cs = some x) : ∀ c ∈ unsigned cs, isNumeric c = true := by
  unfold Double.read? at h
  split at h
  rename_i negative body hsplit
  have hbody : body = unsigned cs := by
    split at hsplit
    · cases hsplit
      rfl
    · cases hsplit
      rfl
    · rename_i hminus hplus
      cases hsplit
      exact (Text.unsigned_of_ne hminus hplus).symm
  subst hbody
  have hsub : ∀ c ∈ unsigned cs, Decimal.isMark c = false := fun c hc => hmark c (Text.mem_of_mem_unsigned hc)
  have happend := Text.spanDigits_append (unsigned cs)
  split at h
  rename_i whole rest hwhole
  rw [hwhole] at happend
  have hdigits := Text.isDigit_of_spanDigits hwhole
  split at h
  rename_i fraction behind hfraction
  -- nothing is left behind the fraction
  have hnil : behind = [] := by
    have hbehind : ∀ c ∈ behind, Decimal.isMark c = false := by
      intro c hc
      refine hsub c (happend ▸ List.mem_append_right _ ?_)
      split at hfraction
      · rename_i places
        have hplaces := Text.spanDigits_append places
        rw [hfraction] at hplaces
        exact List.mem_cons_of_mem _ (hplaces ▸ List.mem_append_right _ hc)
      · cases hfraction
        exact hc
    dsimp only at h
    split at h
    · cases h
    · rw [Text.readExponent?_unmarked hbehind] at h
      replace h : (if behind.isEmpty = true then _ else none) = some x := h
      split at h
      · rename_i hempty
        exact List.isEmpty_iff.1 hempty
      · cases h
  have hrest : ∀ c ∈ rest, isNumeric c = true := by
    split at hfraction
    · rename_i places
      have hplaces := Text.spanDigits_append places
      rw [hfraction, hnil, List.append_nil] at hplaces
      subst hplaces
      intro c hc
      rcases List.mem_cons.1 hc with rfl | hc
      · rfl
      · exact Text.isNumeric_of_isDigit (Text.isDigit_of_spanDigits hfraction c hc)
    · cases hfraction
      rw [hnil]
      nofun
  intro c hc
  rw [← happend] at hc
  rcases List.mem_append.1 hc with hc | hc
  · exact Text.isNumeric_of_isDigit (hdigits c hc)
  · exact hrest c hc

namespace Number

/-- **No reader takes another character**, unless there is an exponent mark. -/
theorem readers_refuse {c : Char} (hmark : ∀ c ∈ cs, Decimal.isMark c = false) (hmem : c ∈ unsigned cs)
    (hother : isNumeric c = false) :
    Decimal.read? cs = none ∧ Decimal.readScientific? cs = none ∧ Double.read? cs = none := by
  refine ⟨?_, ?_, ?_⟩
  · rw [Decimal.read?_eq]
    cases hdigits : Decimal.readDigits 0 0 false false (unsigned cs) with
    | none => rfl
    | some p => simp [Decimal.readDigits_numeric hdigits c hmem] at hother
  · have hnone : cs.dropWhile (fun c => !Decimal.isMark c) = [] :=
      List.dropWhile_eq_nil_iff.2 fun c hc => by simp [hmark c hc]
    unfold Decimal.readScientific?
    rw [hnone]
    rfl
  · cases hread : Double.read? cs with
    | none => rfl
    | some x => simp [Double.read?_numeric hmark hread c hmem] at hother

end Number

end JsonQuery
