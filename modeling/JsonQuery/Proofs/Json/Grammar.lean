import JsonQuery.Proofs.Json.Locality
import JsonQuery.Proofs.Json.Members

/-!
# The grammar of JSON text

A relation between characters and the value that they write, one constructor for each production.  It stands apart
from the reader except for the numbers: JSON does not say how a numeral is rounded, so the number of one is
`ofParts?` of its parts, as it is for the reader.

* `Json.NumberText`, `Json.BodyText`, `Json.ScalarText` — numbers, the inside of strings, and values without parts.
* `Json.Separated`, `Json.Bracketed`, `Json.NestedText` — what stands between commas and between brackets, and
  arrays and objects.
* `Json.ValueText`, `Json.JsonText` — values with an allowance of nesting, and texts.
* `Json.value?_exact` — the reader of values takes what the grammar derives, and nothing else.
* `Json.read?_iff` — a text is read as a value exactly when the grammar derives it for that value.
-/

namespace JsonQuery.Json

variable {α β : Type} {c d close : Char} {cs ds pre rest front back body core : List Char}

/-! ## Numbers -/

/-- A row of digits. -/
structure IsDigits (ds : List Char) : Prop where
  nonempty : ds ≠ []
  digits : ∀ c ∈ ds, Text.isDigit c = true

/-- A fraction, or none, and its digits. -/
inductive FractionText : List Char → List Char → Prop where
  | none : FractionText [] []
  | places (ds : List Char) (hds : IsDigits ds) : FractionText ('.' :: ds) ds

/-- An exponent, or none, and its value. -/
inductive ExponentText : List Char → Int → Prop where
  | none : ExponentText [] 0
  | bare (mark : Char) (ds : List Char) (hmark : mark = 'e' ∨ mark = 'E') (hds : IsDigits ds) :
      ExponentText (mark :: ds) (Text.ofDigits ds)
  | plus (mark : Char) (ds : List Char) (hmark : mark = 'e' ∨ mark = 'E') (hds : IsDigits ds) :
      ExponentText (mark :: '+' :: ds) (Text.ofDigits ds)
  | minus (mark : Char) (ds : List Char) (hmark : mark = 'e' ∨ mark = 'E') (hds : IsDigits ds) :
      ExponentText (mark :: '-' :: ds) (-(Text.ofDigits ds : Int))

/-- A number behind its sign: no zero in front of other digits, and no value that is too large.  The number is the
one that the reader makes of the parts. -/
inductive MagnitudeText (negative : Bool) : List Char → Number → Prop where
  | mk (whole f x fraction : List Char) (exponent : Int) (n : Number) (hwhole : IsDigits whole)
      (hzero : whole.head? = some '0' → whole = ['0']) (hf : FractionText f fraction)
      (hx : ExponentText x exponent) (hn : ofParts? negative whole fraction exponent (f ++ x = []) = some n) :
      MagnitudeText negative (whole ++ (f ++ x)) n

/-- A number. -/
inductive NumberText : List Char → Number → Prop where
  | bare (cs : List Char) (n : Number) (h : MagnitudeText false cs n) : NumberText cs n
  | minus (cs : List Char) (n : Number) (h : MagnitudeText true cs n) : NumberText ('-' :: cs) n

/-! ## Strings -/

/-- A hexadecimal digit, small or capital, and its value. -/
inductive HexText (c : Char) (n : Nat) : Prop where
  | small (h : "0123456789abcdef".toList[n]? = some c)
  | capital (h : "0123456789ABCDEF".toList[n]? = some c)

/-- A 16-bit unit in four hexadecimal digits. -/
inductive UnitText : List Char → Nat → Prop where
  | mk (a b c d : Char) (i j k l : Nat) (ha : HexText a i) (hb : HexText b j) (hc : HexText c k)
      (hd : HexText d l) : UnitText [a, b, c, d] (0x1000 * i + 0x100 * j + 0x10 * k + l)

/-- The escapes of one letter: quote, backslash and slash stand for themselves, the others for controls. -/
def letters : List (Char × Char) :=
  [('"', '"'), ('\\', '\\'), ('/', '/'), ('b', Char.ofNat 0x08), ('f', Char.ofNat 0x0C), ('n', '\n'), ('r', '\r'),
    ('t', '\t')]

/-- An escape behind its backslash, and its character: a letter, a unit that is no surrogate, or a pair of
surrogates. -/
inductive EscapeText : List Char → Char → Prop where
  | letter (c d : Char) (h : (c, d) ∈ letters) : EscapeText [c] d
  | unit (digits : List Char) (u : Nat) (h : UnitText digits u) (hhigh : Text.isHighSurrogate u = false)
      (hlow : Text.isLowSurrogate u = false) : EscapeText ('u' :: digits) (Char.ofNat u)
  | pair (digits digits' : List Char) (high low : Nat) (h : UnitText digits high) (h' : UnitText digits' low)
      (hhigh : Text.isHighSurrogate high = true) (hlow : Text.isLowSurrogate low = true) :
      EscapeText ('u' :: (digits ++ '\\' :: 'u' :: digits')) (Char.ofNat (Text.ofPair high low))

/-- The inside of a string, and its characters. -/
inductive BodyText : List Char → List Char → Prop where
  | nil : BodyText [] []
  | plain (c : Char) (cs ds : List Char) (hquote : c ≠ '"') (hback : c ≠ '\\') (hcontrol : 0x20 ≤ c.toNat)
      (h : BodyText cs ds) : BodyText (c :: cs) (c :: ds)
  | escape (taken : List Char) (d : Char) (cs ds : List Char) (hescape : EscapeText taken d) (h : BodyText cs ds) :
      BodyText ('\\' :: (taken ++ cs)) (d :: ds)

/-! ## Values -/

/-- A value that is neither an array nor an object. -/
inductive ScalarText : List Char → Json → Prop where
  | null : ScalarText ['n', 'u', 'l', 'l'] .null
  | true : ScalarText ['t', 'r', 'u', 'e'] (.bool Bool.true)
  | false : ScalarText ['f', 'a', 'l', 's', 'e'] (.bool Bool.false)
  | string (cs ds : List Char) (h : BodyText cs ds) :
      ScalarText ('"' :: (cs ++ ['"'])) (.string (String.ofList ds))
  | number (cs : List Char) (n : Number) (h : NumberText cs n) : ScalarText cs (.number n)

/-- Blanks of JSON text. -/
def Spaces (cs : List Char) : Prop := ∀ c ∈ cs, isSpace c = true

/-- Items between blanks, with commas between them, and at least one. -/
inductive Separated (R : List Char → α → Prop) : List Char → List α → Prop where
  | last (front core back : List Char) (a : α) (hfront : Spaces front) (hcore : R core a) (hback : Spaces back) :
      Separated R (front ++ (core ++ back)) [a]
  | more (front core back rest : List Char) (a : α) (as : List α) (hfront : Spaces front) (hcore : R core a)
      (hback : Spaces back) (hrest : Separated R rest as) :
      Separated R (front ++ (core ++ (back ++ ',' :: rest))) (a :: as)

/-- What stands between brackets: blanks, or items between commas. -/
inductive Bracketed (R : List Char → α → Prop) : List Char → List α → Prop where
  | empty (blanks : List Char) (h : Spaces blanks) : Bracketed R blanks []
  | items (body : List Char) (as : List α) (h : Separated R body as) : Bracketed R body as

/-- A key, a colon and a value. -/
inductive MemberText (V : List Char → Json → Prop) : List Char → String × Json → Prop where
  | mk (ks key before behind core : List Char) (v : Json) (hkey : BodyText ks key) (hbefore : Spaces before)
      (hbehind : Spaces behind) (hcore : V core v) :
      MemberText V ('"' :: (ks ++ '"' :: (before ++ ':' :: (behind ++ core)))) (String.ofList key, v)

/-- An array or an object; a repeated key keeps its first place and its last value. -/
inductive NestedText (V : List Char → Json → Prop) : List Char → Json → Prop where
  | array (body : List Char) (vs : List Json) (h : Bracketed V body vs) :
      NestedText V ('[' :: (body ++ [']'])) (.array vs)
  | object (body : List Char) (ms members : Members) (h : Bracketed (MemberText V) body ms)
      (hmembers : SetInOrder ms members) : NestedText V ('{' :: (body ++ ['}'])) (.object members)

/-- A value with at most `depth` nested arrays and objects. -/
def ValueText : Nat → List Char → Json → Prop
  | 0 => ScalarText
  | depth + 1 => fun cs v => ScalarText cs v ∨ NestedText (ValueText depth) cs v

/-- A text: one value between blanks. -/
def JsonText (cs : List Char) (v : Json) : Prop :=
  ∃ front core back, cs = front ++ (core ++ back) ∧ Spaces front ∧ Spaces back ∧ ValueText maxDepth core v

/-! ## What stands behind a value -/

/-- What does not go on with a number: nothing, or neither a digit nor a point nor an exponent mark in front. -/
def Stops (rest : List Char) : Prop := ∀ c ∈ rest.head?, Text.isDigit c = false ∧ c ≠ '.' ∧ c ≠ 'e' ∧ c ≠ 'E'

theorem Stops.nil : Stops [] := nofun

theorem Stops.cons (h : Text.isDigit c = false ∧ c ≠ '.' ∧ c ≠ 'e' ∧ c ≠ 'E') (cs : List Char) :
    Stops (c :: cs) := by
  intro d hd
  cases hd
  exact h

theorem Stops.spaces (h : Stops rest) (hback : Spaces back) : Stops (back ++ rest) := by
  cases back with
  | nil => exact h
  | cons c back =>
    have hc : isSpace c = true := hback c (by simp)
    simp only [isSpace, Bool.or_eq_true, beq_iff_eq] at hc
    refine .cons ?_ _
    rcases hc with ((rfl | rfl) | rfl) | rfl <;> decide

/-- A reader takes what a relation derives, and nothing else. -/
structure Exact (r : List Char → Option (α × List Char)) (R : List Char → α → Prop) : Prop where
  sound : ∀ {cs a rest}, r cs = some (a, rest) → ∃ pre, cs = pre ++ rest ∧ R pre a
  complete : ∀ {pre a rest}, R pre a → Stops rest → r (pre ++ rest) = some (a, rest)

/-! ## Numbers, read -/

theorem spanDigits_stop (hds : ∀ c ∈ ds, Text.isDigit c = true)
    (hrest : ∀ c ∈ rest.head?, Text.isDigit c = false) : Text.spanDigits (ds ++ rest) = (ds, rest) := by
  unfold Text.spanDigits
  rw [List.takeWhile_append_of_pos hds, List.dropWhile_append_of_pos hds]
  cases rest with
  | nil => simp
  | cons c rest => simp [hrest c rfl]

theorem fraction?_sound (h : fraction? cs = some (ds, rest)) : ∃ f, cs = f ++ rest ∧ FractionText f ds := by
  unfold fraction? at h
  split at h
  · rename_i cs
    rcases hspan : Text.spanDigits cs with ⟨digits, after⟩
    obtain ⟨rfl, hdigits, -⟩ := spanDigits_local hspan
    simp only [hspan] at h
    split at h
    · cases h
    · rename_i hempty
      cases h
      exact ⟨'.' :: ds, rfl, .places ds ⟨by simpa using hempty, hdigits⟩⟩
  · cases h
    exact ⟨[], rfl, .none⟩

theorem fraction?_complete {f : List Char} (h : FractionText f ds)
    (hrest : ∀ c ∈ rest.head?, Text.isDigit c = false ∧ c ≠ '.') : fraction? (f ++ rest) = some (ds, rest) := by
  cases h with
  | none =>
    rw [List.nil_append]
    unfold fraction?
    split
    · exact absurd rfl (hrest '.' rfl).2
    · rfl
  | places _ hds =>
    rw [List.cons_append, fraction?]
    simp only [spanDigits_stop hds.digits fun c hc => (hrest c hc).1]
    exact if_neg (by simpa using hds.nonempty)

theorem exponent?_sound {negative : Bool} {e : Int} (h : exponent? negative cs = some (e, rest)) :
    ∃ ds, cs = ds ++ rest ∧ IsDigits ds ∧
      e = if negative then -(Text.ofDigits ds : Int) else Text.ofDigits ds := by
  rcases hspan : Text.spanDigits cs with ⟨ds, after⟩
  obtain ⟨rfl, hdigits, -⟩ := spanDigits_local hspan
  simp only [exponent?, hspan] at h
  split at h
  · cases h
  · rename_i hempty
    cases h
    exact ⟨ds, rfl, ⟨by simpa using hempty, hdigits⟩, rfl⟩

theorem exponent?_complete (negative : Bool) (hds : IsDigits ds) (hrest : Stops rest) :
    exponent? negative (ds ++ rest) =
      some (if negative then -(Text.ofDigits ds : Int) else Text.ofDigits ds, rest) := by
  unfold exponent?
  simp only [spanDigits_stop hds.digits fun c hc => (hrest c hc).1]
  exact if_neg (by simpa using hds.nonempty)

theorem readExponent?_sound {e : Int} (h : Text.readExponent? cs = some (e, rest)) :
    ∃ x, cs = x ++ rest ∧ ExponentText x e := by
  rcases cs with _ | ⟨c, cs⟩
  · cases h
    exact ⟨[], rfl, .none⟩
  · by_cases hmark : c = 'e' ∨ c = 'E'
    · by_cases hminus : cs.head? = some '-'
      · obtain ⟨body, rfl⟩ := List.head?_eq_some_iff.1 hminus
        rw [(readExponent?_mark hmark body).1] at h
        obtain ⟨ds, rfl, hds, rfl⟩ := exponent?_sound h
        exact ⟨c :: '-' :: ds, rfl, .minus c ds hmark hds⟩
      by_cases hplus : cs.head? = some '+'
      · obtain ⟨body, rfl⟩ := List.head?_eq_some_iff.1 hplus
        rw [(readExponent?_mark hmark body).2.1] at h
        obtain ⟨ds, rfl, hds, rfl⟩ := exponent?_sound h
        exact ⟨c :: '+' :: ds, rfl, .plus c ds hmark hds⟩
      · rw [(readExponent?_mark hmark cs).2.2 hminus hplus] at h
        obtain ⟨ds, rfl, hds, rfl⟩ := exponent?_sound h
        exact ⟨c :: ds, rfl, .bare c ds hmark hds⟩
    · have hnone : Text.readExponent? (c :: cs) = some (0, c :: cs) := if_neg hmark
      rw [hnone] at h
      cases h
      exact ⟨[], rfl, .none⟩

theorem readExponent?_complete {x : List Char} {e : Int} (h : ExponentText x e) (hrest : Stops rest) :
    Text.readExponent? (x ++ rest) = some (e, rest) := by
  cases h with
  | none =>
    cases rest with
    | nil => rfl
    | cons c rest =>
      obtain ⟨-, -, he, hE⟩ := hrest c rfl
      exact if_neg (by simp [he, hE])
  | bare mark ds hmark hds =>
    have hsign : ∀ c, Text.isDigit c = Bool.false → (ds ++ rest).head? ≠ some c := by
      intro c hc hhead
      rw [List.head?_append_of_ne_nil _ hds.nonempty] at hhead
      rw [hds.digits c (List.mem_of_mem_head? hhead)] at hc
      cases hc
    rw [List.cons_append, (readExponent?_mark hmark _).2.2 (hsign _ rfl) (hsign _ rfl)]
    exact exponent?_complete Bool.false hds hrest
  | plus mark ds hmark hds =>
    exact (readExponent?_mark hmark _).2.1.trans (exponent?_complete Bool.false hds hrest)
  | minus mark ds hmark hds =>
    exact (readExponent?_mark hmark _).1.trans (exponent?_complete Bool.true hds hrest)

/-- An exponent does not go on with a fraction or with digits. -/
theorem ExponentText.behind {x : List Char} {e : Int} (h : ExponentText x e) (hrest : Stops rest) :
    ∀ c ∈ (x ++ rest).head?, Text.isDigit c = false ∧ c ≠ '.' := by
  cases h with
  | none => exact fun c hc => ⟨(hrest c hc).1, (hrest c hc).2.1⟩
  | bare mark _ hmark | plus mark _ hmark | minus mark _ hmark =>
    intro c hc
    cases hc
    rcases hmark with rfl | rfl <;> decide

/-- The test on the digits in front of a point is that on zeros. -/
theorem whole_iff {whole : List Char} :
    (whole.isEmpty || (whole.head? == some '0' && whole.length != 1)) = false ↔
      whole ≠ [] ∧ (whole.head? = some '0' → whole = ['0']) := by
  cases whole with
  | nil => simp
  | cons c cs =>
    simp only [List.isEmpty_cons, Bool.false_or, Bool.and_eq_false_iff, List.head?_cons, beq_eq_false_iff_ne,
      bne_eq_false_iff_eq, List.length_cons, Option.some.injEq, List.cons.injEq, ne_eq, reduceCtorEq,
      not_false_eq_true, true_and, Nat.add_eq_right, List.length_eq_zero_iff]
    constructor
    · rintro (hc | rfl) hzero
      · exact absurd hzero hc
      · exact ⟨hzero, rfl⟩
    · intro h
      by_cases hc : c = '0'
      · exact .inr (h hc).2
      · exact .inl hc

/-- The number is an integer when nothing stands behind the digits. -/
theorem length_eq_iff (f x rest : List Char) :
    decide (rest.length = (f ++ (x ++ rest)).length) = decide (f ++ x = []) := by
  simp only [List.length_append, decide_eq_decide, ← List.length_eq_zero_iff]
  omega

theorem magnitude?_exact (negative : Bool) : Exact (magnitude? negative) (MagnitudeText negative) where
  sound := by
    intro cs n rest h
    rcases hspan : Text.spanDigits cs with ⟨whole, behind⟩
    obtain ⟨hwhole, fraction, exponent, afterFraction, hfraction, hexponent, hn⟩ :=
      (magnitude?_ok negative hspan).1 h
    obtain ⟨rfl, hdigits, -⟩ := spanDigits_local hspan
    obtain ⟨f, rfl, hf⟩ := fraction?_sound hfraction
    obtain ⟨x, rfl, hx⟩ := readExponent?_sound hexponent
    obtain ⟨hne, hzero⟩ := whole_iff.1 hwhole
    rw [length_eq_iff] at hn
    exact ⟨whole ++ (f ++ x), by simp, .mk whole f x fraction exponent n ⟨hne, hdigits⟩ hzero hf hx hn⟩
  complete := by
    rintro _ n rest ⟨whole, f, x, fraction, exponent, _, hwhole, hzero, hf, hx, hn⟩ hrest
    have hbehind := hx.behind hrest
    have hspan : Text.spanDigits (whole ++ (f ++ (x ++ rest))) = (whole, f ++ (x ++ rest)) := by
      refine spanDigits_stop hwhole.digits fun c hc => ?_
      cases hf with
      | none => exact (hbehind c hc).1
      | places =>
        cases hc
        rfl
    rw [List.append_assoc, List.append_assoc]
    refine (magnitude?_ok negative hspan).2 ⟨whole_iff.2 ⟨hwhole.nonempty, hzero⟩, fraction, exponent, x ++ rest,
      fraction?_complete hf hbehind, readExponent?_complete hx hrest, ?_⟩
    rw [length_eq_iff]
    exact hn

/-- A number starts with a digit or a minus sign. -/
theorem NumberText.starts {n : Number} (h : NumberText cs n) :
    ∃ c more, cs = c :: more ∧ (c = '-' ∨ Text.isDigit c = true) := by
  cases h with
  | bare _ _ h =>
    obtain ⟨whole, f, x, fraction, exponent, _, hwhole, -, -, -, -⟩ := h
    obtain ⟨c, more, rfl⟩ := List.exists_cons_of_ne_nil hwhole.nonempty
    exact ⟨c, more ++ (f ++ x), rfl, .inr (hwhole.digits c (by simp))⟩
  | minus cs _ _ => exact ⟨'-', cs, rfl, .inl rfl⟩

theorem number?_of_ne (hc : c ≠ '-') (cs : List Char) : number? (c :: cs) = magnitude? false (c :: cs) := by
  unfold number?
  split
  · rename_i heq
    cases heq
    exact absurd rfl hc
  · rfl

theorem number?_exact : Exact number? NumberText where
  sound := by
    intro cs n rest h
    unfold number? at h
    split at h
    · obtain ⟨pre, rfl, hpre⟩ := (magnitude?_exact true).sound h
      exact ⟨'-' :: pre, rfl, .minus pre n hpre⟩
    · obtain ⟨pre, rfl, hpre⟩ := (magnitude?_exact false).sound h
      exact ⟨pre, rfl, .bare pre n hpre⟩
  complete := by
    intro pre n rest h hrest
    cases h with
    | bare _ _ h =>
      have hread := (magnitude?_exact false).complete h hrest
      obtain ⟨whole, f, x, fraction, exponent, _, hwhole, -, -, -, -⟩ := h
      obtain ⟨c, more, rfl⟩ := List.exists_cons_of_ne_nil hwhole.nonempty
      have hc : c ≠ '-' := by
        rintro rfl
        exact absurd (hwhole.digits '-' (by simp)) (by decide)
      exact (number?_of_ne hc _).trans hread
    | minus cs _ h => exact (magnitude?_exact true).complete h hrest

/-! ## Strings, read -/

theorem hexValue?_iff {n : Nat} : Text.hexValue? c = some n ↔ HexText c n := by
  constructor
  · intro h
    have hrange : c.toNat < 0x80 := by
      unfold Text.hexValue? at h
      split_ifs at h with hdigit hsmall hcapital
      · exact Nat.lt_of_le_of_lt hdigit.2 (by decide)
      · exact Nat.lt_of_le_of_lt hsmall.2 (by decide)
      · exact Nat.lt_of_le_of_lt hcapital.2 (by decide)
    have hplaces : ∀ m < 0x80, ∀ n ∈ Text.hexValue? (Char.ofNat m),
        "0123456789abcdef".toList[n]? = some (Char.ofNat m) ∨
          "0123456789ABCDEF".toList[n]? = some (Char.ofNat m) := by decide +kernel
    have hplace := hplaces c.toNat hrange
    rw [Char.ofNat_toNat] at hplace
    exact (hplace n h).elim .small .capital
  · have hsmall : ∀ p ∈ "0123456789abcdef".toList.zipIdx, Text.hexValue? p.1 = some p.2 := by decide
    have hcapital : ∀ p ∈ "0123456789ABCDEF".toList.zipIdx, Text.hexValue? p.1 = some p.2 := by decide
    intro h
    cases h with
    | small h => exact hsmall (c, n) (List.mk_mem_zipIdx_iff_getElem?.2 h)
    | capital h => exact hcapital (c, n) (List.mk_mem_zipIdx_iff_getElem?.2 h)

theorem unit?_iff {u : Nat} : Text.Escape.unit? cs = some u ↔
    ∃ digits rest, cs = digits ++ rest ∧ UnitText digits u := by
  constructor
  · intro h
    unfold Text.Escape.unit? at h
    split at h
    · rename_i a b c d rest
      simp only [Text.hexQuad?, Option.bind_eq_bind, Option.bind_eq_some_iff, hexValue?_iff] at h
      obtain ⟨i, ha, j, hb, k, hc, l, hd, heq⟩ := h
      cases heq
      exact ⟨[a, b, c, d], rest, rfl, .mk a b c d i j k l ha hb hc hd⟩
    · cases h
  · rintro ⟨_, rest, rfl, ⟨a, b, c, d, i, j, k, l, ha, hb, hc, hd⟩⟩
    simp only [List.cons_append, List.nil_append, Text.Escape.unit?, Text.hexQuad?, hexValue?_iff.2 ha,
      hexValue?_iff.2 hb, hexValue?_iff.2 hc, hexValue?_iff.2 hd]
    rfl

theorem UnitText.length {u : Nat} (h : UnitText cs u) : cs.length = 4 := by
  cases h
  rfl

theorem short?_iff : Text.Escape.short? c = some d ↔ (c, d) ∈ letters := by
  constructor
  · intro h
    unfold Text.Escape.short? at h
    split_ifs at h with hself hb hf hn hr ht
    · cases h
      rcases hself with rfl | rfl | rfl <;> decide
    all_goals
      cases h
      subst c
      decide
  · have hletters : ∀ p ∈ letters, Text.Escape.short? p.1 = some p.2 := by decide
    exact hletters (c, d)

/-- An escape is read exactly as the grammar derives it. -/
theorem escape_iff {n : Nat} : Text.Escape.read cs = .ok (d, n) ↔
    ∃ taken rest, cs = taken ++ rest ∧ taken.length = n ∧ EscapeText taken d := by
  constructor
  · intro h
    rcases cs with _ | ⟨c, cs⟩
    · cases h
    rw [Text.Escape.read] at h
    split at h
    · rename_i hc
      subst hc
      split at h
      · cases h
      · rename_i u hunit
        obtain ⟨digits, rest, rfl, hdigits⟩ := unit?_iff.1 hunit
        split at h
        · rename_i hhigh
          rw [List.drop_left' hdigits.length] at h
          unfold Text.Escape.readLow at h
          split at h
          · split at h
            · cases h
            · rename_i low hunit'
              obtain ⟨digits', rest, rfl, hdigits'⟩ := unit?_iff.1 hunit'
              split at h
              · rename_i hlow
                simp only [Except.ok.injEq, Prod.mk.injEq] at h
                obtain ⟨rfl, rfl⟩ := h
                refine ⟨'u' :: (digits ++ '\\' :: 'u' :: digits'), rest, by simp, ?_,
                  .pair digits digits' u low hdigits hdigits' hhigh hlow⟩
                simp [hdigits.length, hdigits'.length]
              · cases h
          · cases h
        · rename_i hhigh
          split at h
          · cases h
          · rename_i hlow
            cases h
            exact ⟨'u' :: digits, rest, rfl, by simp [hdigits.length],
              .unit digits u hdigits (by simpa using hhigh) (by simpa using hlow)⟩
    · split at h
      · rename_i hshort
        cases h
        exact ⟨[c], cs, rfl, rfl, .letter c d (short?_iff.1 hshort)⟩
      · cases h
  · rintro ⟨taken, rest, rfl, rfl, h⟩
    cases h with
    | letter c d h =>
      have hnone : Text.Escape.short? 'u' = none := by decide
      have hc : c ≠ 'u' := by
        rintro rfl
        rw [short?_iff.2 h] at hnone
        cases hnone
      rw [List.singleton_append, Text.Escape.read, if_neg hc]
      simp only [short?_iff.2 h]
      rfl
    | unit digits u h hhigh hlow =>
      have hunit := unit?_iff.2 ⟨digits, rest, rfl, h⟩
      rw [List.cons_append, Text.Escape.read, if_pos rfl]
      simp [hunit, hhigh, hlow, h.length]
    | pair digits digits' high low h h' hhigh hlow =>
      have hunit := unit?_iff.2 ⟨digits, '\\' :: 'u' :: (digits' ++ rest), rfl, h⟩
      have hunit' := unit?_iff.2 ⟨digits', rest, rfl, h'⟩
      rw [List.cons_append, List.append_assoc, Text.Escape.read, if_pos rfl]
      simp only [List.cons_append, hunit, hhigh, if_true, List.drop_left' h.length, Text.Escape.readLow, hunit',
        hlow]
      simp [h.length, h'.length]

/-- The inside of a string is read up to its closing quote. -/
theorem stringBody?_iff : stringBody? cs = some (ds, rest) ↔
    ∃ body, cs = body ++ '"' :: rest ∧ BodyText body ds := by
  constructor
  · intro h
    fun_induction stringBody? cs generalizing ds rest with
    | case1 => cases h
    | case2 cs =>
      cases h
      exact ⟨[], rfl, .nil⟩
    | case3 => cases h
    | case4 cs d n hescape hquote ih =>
      obtain ⟨⟨ds, after⟩, hds, heq⟩ := Option.map_eq_some_iff.1 h
      cases heq
      obtain ⟨taken, behind, rfl, rfl, htaken⟩ := escape_iff.1 hescape
      rw [List.drop_left] at hds ih
      obtain ⟨body, rfl, hbody⟩ := ih hds
      exact ⟨'\\' :: (taken ++ body), by simp, .escape taken d body ds htaken hbody⟩
    | case5 => cases h
    | case6 c cs hquote hback hcontrol ih =>
      obtain ⟨⟨ds, after⟩, hds, heq⟩ := Option.map_eq_some_iff.1 h
      cases heq
      obtain ⟨body, rfl, hbody⟩ := ih hds
      exact ⟨c :: body, rfl, .plain c body ds hquote hback (by omega) hbody⟩
  · rintro ⟨body, rfl, h⟩
    induction h with
    | nil => rw [List.nil_append, stringBody?, if_pos rfl]
    | plain c cs ds hquote hback hcontrol _ ih =>
      rw [List.cons_append, stringBody?, if_neg hquote, if_neg hback, if_neg (by omega), ih]
      rfl
    | escape taken d cs ds hescape _ ih =>
      have hread := escape_iff.2 ⟨taken, cs ++ '"' :: rest, rfl, rfl, hescape⟩
      rw [List.cons_append, List.append_assoc, stringBody?, if_neg (by decide), if_pos rfl]
      simp only [hread, List.drop_left, ih]
      rfl

theorem string?_iff {s : String} : string? cs = some (s, rest) ↔
    ∃ body ds, cs = '"' :: (body ++ '"' :: rest) ∧ BodyText body ds ∧ s = String.ofList ds := by
  constructor
  · intro h
    unfold string? at h
    split at h
    · obtain ⟨⟨ds, after⟩, hds, heq⟩ := Option.map_eq_some_iff.1 h
      cases heq
      obtain ⟨body, rfl, hbody⟩ := stringBody?_iff.1 hds
      exact ⟨body, ds, rfl, hbody, rfl⟩
    · cases h
  · rintro ⟨body, ds, rfl, hbody, rfl⟩
    rw [string?, stringBody?_iff.2 ⟨body, rfl, hbody⟩]
    rfl

/-! ## Values, read -/

theorem ScalarText.starts {v : Json} (h : ScalarText cs v) :
    ∃ c more, cs = c :: more ∧ (c ∈ ['n', 't', 'f', '"', '-'] ∨ Text.isDigit c = Bool.true) := by
  cases h with
  | null | true | false => exact ⟨_, _, rfl, .inl (by simp)⟩
  | string cs ds => exact ⟨'"', cs ++ ['"'], rfl, .inl (by simp)⟩
  | number _ n h =>
    obtain ⟨c, more, rfl, rfl | hc⟩ := h.starts
    · exact ⟨'-', more, rfl, .inl (by simp)⟩
    · exact ⟨c, more, rfl, .inr hc⟩

theorem scalar?_exact : Exact scalar? ScalarText where
  sound := by
    intro cs v rest h
    unfold scalar? at h
    split at h
    · cases h
      exact ⟨['n', 'u', 'l', 'l'], rfl, .null⟩
    · cases h
      exact ⟨['t', 'r', 'u', 'e'], rfl, .true⟩
    · cases h
      exact ⟨['f', 'a', 'l', 's', 'e'], rfl, .false⟩
    · obtain ⟨⟨s, after⟩, hs, heq⟩ := Option.map_eq_some_iff.1 h
      cases heq
      obtain ⟨body, ds, hcs, hbody, rfl⟩ := string?_iff.1 hs
      exact ⟨'"' :: (body ++ ['"']), by simp [hcs], .string body ds hbody⟩
    · obtain ⟨⟨n, after⟩, hn, heq⟩ := Option.map_eq_some_iff.1 h
      cases heq
      obtain ⟨pre, rfl, hpre⟩ := number?_exact.sound hn
      exact ⟨pre, rfl, .number pre n hpre⟩
  complete := by
    intro pre v rest h hrest
    cases h with
    | null | true | false => rfl
    | string cs ds h =>
      have hread : string? ('"' :: (cs ++ '"' :: rest)) = some (String.ofList ds, rest) :=
        string?_iff.2 ⟨cs, ds, rfl, h, rfl⟩
      rw [List.cons_append, List.append_assoc]
      simp only [scalar?, List.singleton_append, hread]
      rfl
    | number _ n h =>
      have hread := number?_exact.complete h hrest
      obtain ⟨c, more, rfl, hc⟩ := h.starts
      have hother : c ∉ ['n', 't', 'f', '"'] := by
        intro hmem
        simp only [List.mem_cons, List.not_mem_nil, or_false] at hmem
        rcases hmem with rfl | rfl | rfl | rfl <;> exact absurd hc (by decide)
      rw [List.cons_append] at hread ⊢
      rw [scalar?_of_other hother, hread]
      rfl

/-! ## Between commas and brackets, read -/

/-- A reader takes what a relation derives behind blanks, and nothing else. -/
structure Skipping (r : List Char → Option (α × List Char)) (R : List Char → α → Prop) : Prop where
  sound : ∀ {cs a rest}, r cs = some (a, rest) →
    ∃ front core, cs = front ++ (core ++ rest) ∧ Spaces front ∧ R core a
  complete : ∀ {front core a rest}, Spaces front → R core a → Stops rest →
    r (front ++ (core ++ rest)) = some (a, rest)

theorem exists_spaces (cs : List Char) : ∃ front, cs = front ++ skipSpace cs ∧ Spaces front := exists_blanks cs

theorem skipSpace_spaces (hback : Spaces back) (hc : isSpace c = false) (rest : List Char) :
    skipSpace (back ++ c :: rest) = c :: rest := by
  rw [skipSpace_append hback, skipSpace_cons hc]

/-- What a relation derives starts with none of these characters: a blank or a closing bracket. -/
def Opens (R : List Char → α → Prop) : Prop :=
  ∀ ⦃core a⦄, R core a → ∃ c more, core = c :: more ∧ isSpace c = false ∧ c ≠ ']' ∧ c ≠ '}'

theorem Exact.skip {r : List Char → Option (α × List Char)} {R : List Char → α → Prop} (hr : Exact r R)
    (hopens : Opens R) : Skipping (fun cs => r (skipSpace cs)) R where
  sound := by
    intro cs a rest h
    obtain ⟨front, hcs, hfront⟩ := exists_spaces cs
    obtain ⟨core, hcore, hR⟩ := hr.sound h
    exact ⟨front, core, by rw [← hcore, ← hcs], hfront, hR⟩
  complete := by
    intro front core a rest hfront hcore hrest
    obtain ⟨c, more, rfl, hc, -⟩ := hopens hcore
    have hskip : skipSpace (front ++ (c :: more ++ rest)) = c :: more ++ rest := by
      rw [skipSpace_append hfront, List.cons_append, skipSpace_cons hc]
    exact (congrArg r hskip).trans (hr.complete hcore hrest)

/-- Items are read up to the closing bracket. -/
theorem separated_iff {r : List Char → Option (α × List Char)} {R : List Char → α → Prop}
    {list? : List Char → Option (List α × List Char)} {as : List α} (hr : Skipping r R)
    (hclose : ∀ rest, Stops (close :: rest)) (hspace : isSpace close = false) (hcomma : close ≠ ',')
    (hlist : ∀ cs, list? cs = (r cs).bind fun (a, after) =>
      match skipSpace after with
      | c :: rest => if c = close then some ([a], rest)
        else if c = ',' then (list? rest).map fun (as, rest) => (a :: as, rest) else none
      | [] => none) :
    list? cs = some (as, rest) ↔ ∃ body, cs = body ++ close :: rest ∧ Separated R body as := by
  constructor
  · intro h
    -- behind each comma a shorter text is left
    induction hlength : cs.length using Nat.strong_induction_on generalizing cs as rest with
    | _ n ih =>
      rw [hlist] at h
      obtain ⟨⟨a, after⟩, hread, hbehind⟩ := Option.bind_eq_some_iff.1 h
      obtain ⟨front, core, rfl, hfront, hcore⟩ := hr.sound hread
      obtain ⟨back, hafter, hback⟩ := exists_spaces after
      dsimp only at hbehind
      split at hbehind
      · rename_i c behind hskip
        rw [hskip] at hafter
        subst hafter
        split at hbehind
        · rename_i hc
          cases hbehind
          exact ⟨front ++ (core ++ back), by simp [hc], .last front core back a hfront hcore hback⟩
        · split at hbehind
          · rename_i hc
            obtain ⟨⟨bs, more⟩, hmore, heq⟩ := Option.map_eq_some_iff.1 hbehind
            cases heq
            obtain ⟨body, rfl, hbody⟩ := ih _ (by subst hlength; simp; omega) hmore rfl
            exact ⟨front ++ (core ++ (back ++ ',' :: body)), by simp [hc],
              .more front core back body a bs hfront hcore hback hbody⟩
          · cases hbehind
      · cases hbehind
  · rintro ⟨body, rfl, h⟩
    induction h with
    | last front core back a hfront hcore hback =>
      rw [hlist, List.append_assoc, List.append_assoc,
        hr.complete hfront hcore ((hclose rest).spaces hback), Option.bind_some]
      simp only [skipSpace_spaces hback hspace, if_true]
    | more front core back body a bs hfront hcore hback _ ih =>
      have hstops : Stops (',' :: (body ++ close :: rest)) := Stops.cons (by decide) _
      rw [hlist, List.append_assoc, List.append_assoc, List.append_assoc, List.cons_append,
        hr.complete hfront hcore (hstops.spaces hback), Option.bind_some]
      simp only [skipSpace_spaces hback (show isSpace ',' = false from rfl), if_neg (Ne.symm hcomma), if_true, ih]
      rfl

/-- A bracket, and blanks or items up to the one that closes it. -/
theorem bracketed_iff {r : List Char → Option (β × List Char)} {R : List Char → α → Prop} {b : β}
    {list? : List Char → Option (List α × List Char)} (f : List α → β) (hspace : isSpace close = false)
    (hopens : ∀ {core a}, R core a → ∃ c more, core = c :: more ∧ isSpace c = false ∧ c ≠ close)
    (hlist : ∀ {cs as rest}, list? cs = some (as, rest) ↔ ∃ body, cs = body ++ close :: rest ∧ Separated R body as)
    (hempty : ∀ {cs rest}, skipSpace cs = close :: rest → r cs = some (f [], rest))
    (hmore : ∀ {cs}, (skipSpace cs).head? ≠ some close → r cs = (list? cs).map fun (as, rest) => (f as, rest)) :
    r cs = some (b, rest) ↔ ∃ body as, cs = body ++ close :: rest ∧ Bracketed R body as ∧ b = f as := by
  constructor
  · intro h
    by_cases hhead : (skipSpace cs).head? = some close
    · obtain ⟨more, hskip⟩ := List.head?_eq_some_iff.1 hhead
      obtain ⟨blanks, hcs, hblanks⟩ := exists_spaces cs
      rw [hempty hskip] at h
      cases h
      exact ⟨blanks, [], by rw [← hskip, ← hcs], .empty blanks hblanks, rfl⟩
    · rw [hmore hhead] at h
      obtain ⟨⟨as, after⟩, hlisted, heq⟩ := Option.map_eq_some_iff.1 h
      cases heq
      obtain ⟨body, rfl, hbody⟩ := hlist.1 hlisted
      exact ⟨body, as, rfl, .items body as hbody, rfl⟩
  · rintro ⟨body, as, rfl, h, rfl⟩
    cases h with
    | empty hblanks => exact hempty (skipSpace_spaces hblanks hspace rest)
    | items _ h =>
      -- the first item does not start with the closing bracket
      obtain ⟨front, c, more, rfl, hfront, hc, hne⟩ : ∃ front c more, body = front ++ c :: more ∧ Spaces front ∧
          isSpace c = false ∧ c ≠ close := by
        cases h with
        | last front _ back a hfront hcore | more front _ back _ a _ hfront hcore =>
          obtain ⟨c, more, rfl, hc, hne⟩ := hopens hcore
          exact ⟨front, c, _, rfl, hfront, hc, hne⟩
      have hhead : (skipSpace (front ++ c :: more ++ close :: rest)).head? ≠ some close := by
        rw [List.append_assoc, List.cons_append, skipSpace_spaces hfront hc]
        simpa using hne
      rw [hmore hhead, hlist.2 ⟨_, rfl, h⟩]
      rfl

/-- Something is read in front of the next comma. -/
theorem Skipping.shorter {r : List Char → Option (α × List Char)} {R : List Char → α → Prop} {a : α}
    {after : List Char} (hr : Skipping r R) (h : r cs = some (a, after)) (hskip : skipSpace after = c :: rest) :
    rest.length < cs.length := by
  obtain ⟨front, core, rfl, -, -⟩ := hr.sound h
  obtain ⟨blanks, hafter, -⟩ := exists_spaces after
  rw [hskip] at hafter
  subst hafter
  simp
  omega

section Nested

variable {value : List Char → Option (Json × List Char)} {V : List Char → Json → Prop}

theorem items?_iff (hvalue : Exact value V) (hopens : Opens V) {vs : List Json} :
    items? value cs = some (vs, rest) ↔ ∃ body, cs = body ++ ']' :: rest ∧ Separated V body vs := by
  have hskipping := hvalue.skip hopens
  refine separated_iff hskipping (.cons (by decide)) rfl (by decide) fun cs => ?_
  rw [items?]
  cases hread : value (skipSpace cs) with
  | none => rfl
  | some p =>
    obtain ⟨v, after⟩ := p
    rw [Option.bind_some]
    dsimp only
    cases hskip : skipSpace after with
    | nil => rfl
    | cons c rest =>
      have hshorter := hskipping.shorter hread hskip
      by_cases hclose : c = ']'
      · subst hclose
        rfl
      by_cases hcomma : c = ','
      · subst hcomma
        simp [hshorter]
      · simp [hclose, hcomma]

theorem array?_iff (hvalue : Exact value V) (hopens : Opens V) {v : Json} : array? value cs = some (v, rest) ↔
    ∃ body vs, cs = body ++ ']' :: rest ∧ Bracketed V body vs ∧ v = array vs := by
  refine bracketed_iff array rfl (fun h => ?_) (items?_iff hvalue hopens) (fun h => by rw [array?, h]; rfl)
    fun h => ?_
  · obtain ⟨c, more, hcore, hc, hne, -⟩ := hopens h
    exact ⟨c, more, hcore, hc, hne⟩
  · unfold array?
    split
    · simp_all
    · rfl

theorem member?_skip (hvalue : Exact value V) (hopens : Opens V) : Skipping (member? value) (MemberText V) where
  sound := by
    intro cs m rest h
    unfold member? at h
    split at h
    · cases h
    · rename_i key after hkey
      split at h
      · rename_i behind hafter
        obtain ⟨⟨v, after⟩, hv, heq⟩ := Option.map_eq_some_iff.1 h
        cases heq
        obtain ⟨front, hcs, hfront⟩ := exists_spaces cs
        obtain ⟨ks, ds, hks, hbody, rfl⟩ := string?_iff.1 hkey
        obtain ⟨before, hbefore, hspaces⟩ := exists_spaces after
        obtain ⟨between, core, rfl, hbetween, hcore⟩ := (hvalue.skip hopens).sound hv
        rw [hafter] at hbefore
        rw [hks, hbefore] at hcs
        exact ⟨front, _, hcs.trans (by simp), hfront, .mk ks ds before between core v hbody hspaces hbetween hcore⟩
      · cases h
  complete := by
    rintro front _ _ rest hfront ⟨ks, key, before, behind, core, v, hkey, hbefore, hbehind, hcore⟩ hrest
    have hstring : string? ('"' :: (ks ++ '"' :: (before ++ ':' :: (behind ++ (core ++ rest))))) =
        some (String.ofList key, before ++ ':' :: (behind ++ (core ++ rest))) :=
      string?_iff.2 ⟨ks, key, rfl, hkey, rfl⟩
    have hread := (hvalue.skip hopens).complete hbehind hcore hrest
    simp only [List.cons_append, List.append_assoc]
    unfold member?
    rw [skipSpace_spaces hfront rfl, hstring]
    simp only [skipSpace_spaces hbefore (show isSpace ':' = false from rfl), hread]
    rfl

theorem MemberText.opens : Opens (MemberText V) := by
  rintro _ _ ⟨ks, key, before, behind, core, v, -, -, -, -⟩
  exact ⟨'"', _, rfl, rfl, by decide, by decide⟩

theorem members?_iff (hvalue : Exact value V) (hopens : Opens V) {ms : Members} :
    members? value cs = some (ms, rest) ↔ ∃ body, cs = body ++ '}' :: rest ∧ Separated (MemberText V) body ms := by
  have hskipping := member?_skip hvalue hopens
  refine separated_iff hskipping (.cons (by decide)) rfl (by decide) fun cs => ?_
  rw [members?]
  cases hread : member? value cs with
  | none => rfl
  | some p =>
    obtain ⟨m, after⟩ := p
    rw [Option.bind_some]
    dsimp only
    cases hskip : skipSpace after with
    | nil => rfl
    | cons c rest =>
      have hshorter := hskipping.shorter hread hskip
      by_cases hclose : c = '}'
      · subst hclose
        rfl
      by_cases hcomma : c = ','
      · subst hcomma
        simp [hshorter]
      · simp [hclose, hcomma]

theorem object?_iff (hvalue : Exact value V) (hopens : Opens V) {v : Json} : object? value cs = some (v, rest) ↔
    ∃ body ms, cs = body ++ '}' :: rest ∧ Bracketed (MemberText V) body ms ∧ v = ofMembers ms := by
  refine bracketed_iff ofMembers rfl (fun h => ?_) (members?_iff hvalue hopens) (fun h => by rw [object?, h]; rfl)
    fun h => ?_
  · obtain ⟨c, more, hcore, hc, -, hne⟩ := MemberText.opens h
    exact ⟨c, more, hcore, hc, hne⟩
  · unfold object?
    split
    · simp_all
    · rfl

end Nested

theorem ScalarText.opens : Opens ScalarText := by
  intro core v h
  obtain ⟨c, more, rfl, hc⟩ := h.starts
  refine ⟨c, more, rfl, ?_⟩
  rcases hc with hc | hdigit
  · simp only [List.mem_cons, List.not_mem_nil, or_false] at hc
    rcases hc with rfl | rfl | rfl | rfl | rfl <;> decide
  · refine ⟨?_, ?_, ?_⟩
    · cases hspace : isSpace c with
      | false => rfl
      | true => simpa [isEnd, isBlank_of_isSpace hspace] using isEnd_of_isDigit hdigit
    · rintro rfl
      exact absurd hdigit (by decide)
    · rintro rfl
      exact absurd hdigit (by decide)

theorem NestedText.opens (V : List Char → Json → Prop) : Opens (NestedText V) := by
  rintro _ _ (⟨body, vs, -⟩ | ⟨body, ms, members, -, -⟩)
  · exact ⟨'[', _, rfl, by decide, by decide, by decide⟩
  · exact ⟨'{', _, rfl, by decide, by decide, by decide⟩

theorem ValueText.opens (depth : Nat) : Opens (ValueText depth) := by
  cases depth with
  | zero => exact ScalarText.opens
  | succ depth => exact fun _ _ h => h.elim (ScalarText.opens ·) (NestedText.opens _ ·)

/-- A value without parts is read as one with any allowance of nesting. -/
theorem value?_scalar {v : Json} (h : ScalarText pre v) (depth : Nat) (rest : List Char) :
    value? depth (pre ++ rest) = scalar? (pre ++ rest) := by
  cases depth with
  | zero => rfl
  | succ depth =>
    obtain ⟨c, more, rfl, hc⟩ := h.starts
    unfold value?
    split
    · rename_i heq
      cases heq
      exact absurd hc (by decide)
    · rename_i heq
      cases heq
      exact absurd hc (by decide)
    · rfl

/-- **The reader of values takes what the grammar derives, and nothing else.** -/
theorem value?_exact (depth : Nat) : Exact (value? depth) (ValueText depth) := by
  -- the items and members of a value have one level less
  induction depth with
  | zero => exact scalar?_exact
  | succ depth ih =>
    have hopens := ValueText.opens depth
    refine ⟨fun {cs v rest} h => ?_, fun {pre v rest} h hrest => ?_⟩
    · unfold value? at h
      split at h
      · obtain ⟨body, vs, rfl, hbody, rfl⟩ := (array?_iff ih hopens).1 h
        exact ⟨'[' :: (body ++ [']']), by simp, .inr (.array body vs hbody)⟩
      · obtain ⟨body, ms, rfl, hbody, rfl⟩ := (object?_iff ih hopens).1 h
        exact ⟨'{' :: (body ++ ['}']), by simp, .inr (.object body ms _ hbody (setAll_inOrder ms))⟩
      · obtain ⟨pre, rfl, hpre⟩ := scalar?_exact.sound h
        exact ⟨pre, rfl, .inl hpre⟩
    · rcases h with h | ⟨body, vs, h⟩ | ⟨body, ms, members, h, hmembers⟩
      · rw [value?_scalar h]
        exact scalar?_exact.complete h hrest
      · rw [List.cons_append, List.append_assoc]
        exact (array?_iff ih hopens).2 ⟨body, vs, rfl, h, rfl⟩
      · rw [List.cons_append, List.append_assoc]
        have hset : Json.object members = ofMembers ms := by rw [ofMembers_eq, (setAll_inOrder ms).unique hmembers]
        exact (object?_iff ih hopens).2 ⟨body, ms, rfl, h, hset⟩

/-- **A text is read as a value exactly when the grammar derives it for that value.** -/
theorem read?_iff {v : Json} : read? cs = some v ↔ JsonText cs v := by
  constructor
  · intro h
    unfold read? at h
    split at h
    · rename_i w rest hvalue
      split at h
      · rename_i hempty
        cases h
        obtain ⟨front, hcs, hfront⟩ := exists_spaces cs
        obtain ⟨core, hcore, hv⟩ := (value?_exact maxDepth).sound hvalue
        obtain ⟨back, hback, hspaces⟩ := exists_spaces rest
        rw [List.isEmpty_iff.1 hempty, List.append_nil] at hback
        subst hback
        exact ⟨front, core, rest, by rw [← hcore, ← hcs], hfront, hspaces, hv⟩
      · cases h
    · cases h
  · rintro ⟨front, core, back, rfl, hfront, hback, hv⟩
    have hread := ((value?_exact maxDepth).skip (ValueText.opens maxDepth)).complete hfront hv
      (Stops.nil.spaces hback)
    have hnil : skipSpace back = [] := List.dropWhile_eq_nil_iff.2 hback
    rw [List.append_nil] at hread
    unfold read?
    simp only [hread, hnil]
    rfl

end JsonQuery.Json
