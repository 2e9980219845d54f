import Mathlib
import JsonQuery.Proofs.Text.Units
import JsonQuery.Proofs.Token.Written

/-!
# Names written in UTF-16 units

Every row of 16-bit units can be written as a quoted name, with one escape for each unit.  It is scanned
as the name with these units if the row is well-formed UTF-16, and refused if not.

* `Text.wellFormed` — a row of units in which surrogates stand in pairs only.
* `Token.EscapedUnit`, `Token.writeUnits` — units as escapes of four digits, each digit in either case.
* `Text.unitsOfChar_scalar`, `Text.unitsOfChar_pair` — the characters of one unit and of two.
* `Token.Yields` — what a scan of such a name has to yield; `Token.Yields.single` and `Token.Yields.pair`
  for one character, `Token.yields_units` for all.
* `TokenRow.ofText_units` — a row of units is a name exactly if it is well-formed.
-/

namespace JsonQuery

/-! ## Definitions -/

/-- A row of units is well-formed UTF-16: behind each high surrogate stands a low one, and low surrogates
stand nowhere else. -/
def Text.wellFormed : List Nat → Bool
  | [] => true
  | u :: us =>
    if isHighSurrogate u then
      match us with
      | [] => false
      | v :: us => isLowSurrogate v && wellFormed us
    else !isLowSurrogate u && wellFormed us

example : Text.wellFormed [0x61, 0xD83D, 0xDE00] = true ∧ Text.wellFormed [0xDE00, 0xD83D] = false ∧
    Text.wellFormed [0xD83D, 0xD83D, 0xDE00] = false := by
  decide

/-- A hexadecimal digit; one above nine is a letter, capital or small. -/
def Text.hexDigit (capital : Bool) (n : Nat) : Char :=
  if n < 10 then Char.ofNat ('0'.toNat + n)
  else Char.ofNat ((if capital then 'A' else 'a').toNat + (n - 10))

namespace Token

/-- A 16-bit unit, and which of its four digits are capital. -/
structure EscapedUnit where
  unit : UInt16
  capitals : Bool × Bool × Bool × Bool

namespace EscapedUnit

/-- The value of the unit. -/
def value (u : EscapedUnit) : Nat := u.unit.toNat

/-- The four digits. -/
def digits (u : EscapedUnit) : List Char :=
  [Text.hexDigit u.capitals.1 (u.value / 0x1000), Text.hexDigit u.capitals.2.1 (u.value / 0x100 % 0x10),
   Text.hexDigit u.capitals.2.2.1 (u.value / 0x10 % 0x10), Text.hexDigit u.capitals.2.2.2 (u.value % 0x10)]

/-- The escape. -/
def write (u : EscapedUnit) : List Char := '\\' :: 'u' :: u.digits

end EscapedUnit

/-- The quoted name of these escapes. -/
def writeUnits (us : List EscapedUnit) : String :=
  String.ofList ('"' :: (us.flatMap EscapedUnit.write ++ ['"']))

example : writeUnits [⟨0xD83D, true, true, true, false⟩, ⟨0xDE00, true, false, false, false⟩] =
    "\"\\uD83d\\uDe00\"" := by
  decide

/-- What the scan of a name with these units has to yield: the text that they make up, and the number of
characters taken, if they are well-formed, and a fault if not. -/
def Yields (us : List Nat) (total : Nat) : Except Fault (List Char × Nat) → Prop
  | .ok (cs, n) => Text.wellFormed us = true ∧ cs.flatMap Text.unitsOfChar = us ∧ n = total
  | .error _ => Text.wellFormed us = false

end Token

/-! ## Characters -/

namespace Text

variable {u v : Nat}

theorem wellFormed_cons (h : isHighSurrogate u = false) (us : List Nat) :
    wellFormed (u :: us) = (!isLowSurrogate u && wellFormed us) := by
  rw [wellFormed.eq_def]
  simp only [h, Bool.false_eq_true, if_false]

theorem wellFormed_lone (h : isHighSurrogate u = true) : wellFormed [u] = false := by
  rw [wellFormed.eq_def]
  simp only [h, if_true]

theorem wellFormed_pair (h : isHighSurrogate u = true) (us : List Nat) :
    wellFormed (u :: v :: us) = (isLowSurrogate v && wellFormed us) := by
  rw [wellFormed.eq_def]
  simp only [h, if_true]

/-- A unit that is no surrogate is a character of its own. -/
theorem unitsOfChar_scalar (hlt : u < 0x10000) (hhigh : isHighSurrogate u = false)
    (hlow : isLowSurrogate u = false) : unitsOfChar (Char.ofNat u) = [u] := by
  simp only [isHighSurrogate, isLowSurrogate, Bool.and_eq_false_iff, decide_eq_false_iff_not] at hhigh hlow
  have hvalid : u.isValidChar := by
    unfold Nat.isValidChar
    omega
  have hcode : (Char.ofNat u).toNat = u := by rw [Char.toNat_ofNat, if_pos hvalid]
  simp only [unitsOfChar, hcode, if_pos hlt]

/-- A high and a low surrogate are one character. -/
theorem unitsOfChar_pair (hhigh : isHighSurrogate u = true) (hlow : isLowSurrogate v = true) :
    unitsOfChar (Char.ofNat (ofPair u v)) = [u, v] := by
  simp only [isHighSurrogate, isLowSurrogate, Bool.and_eq_true, decide_eq_true_eq] at hhigh hlow
  have hvalid : (ofPair u v).isValidChar := by
    unfold ofPair Nat.isValidChar
    omega
  have hlarge : ¬ ofPair u v < 0x10000 := by
    unfold ofPair
    omega
  have hcode : (Char.ofNat (ofPair u v)).toNat = ofPair u v := by rw [Char.toNat_ofNat, if_pos hvalid]
  simp only [unitsOfChar, hcode, if_neg hlarge, List.cons.injEq, and_true]
  unfold ofPair
  omega

/-- The units of a text are well-formed. -/
theorem wellFormed_units (s : String) : wellFormed (units s) = true := by
  unfold units
  induction s.toList with
  | nil => rfl
  | cons c cs ih =>
    have hvalid : c.toNat < 0xD800 ∨ 0xDFFF < c.toNat ∧ c.toNat < 0x110000 := c.valid
    rw [List.flatMap_cons]
    by_cases hsmall : c.toNat < 0x10000
    · have hunits : unitsOfChar c = [c.toNat] := if_pos hsmall
      have hhigh : isHighSurrogate c.toNat = false := by
        simp only [isHighSurrogate, Bool.and_eq_false_iff, decide_eq_false_iff_not]
        omega
      have hlow : isLowSurrogate c.toNat = false := by
        simp only [isLowSurrogate, Bool.and_eq_false_iff, decide_eq_false_iff_not]
        omega
      rw [hunits, List.singleton_append, wellFormed_cons hhigh, hlow, ih]
      rfl
    · have hunits : unitsOfChar c =
          [0xD800 + (c.toNat - 0x10000) / 0x400, 0xDC00 + (c.toNat - 0x10000) % 0x400] := if_neg hsmall
      have hhigh : isHighSurrogate (0xD800 + (c.toNat - 0x10000) / 0x400) = true := by
        simp only [isHighSurrogate, Bool.and_eq_true, decide_eq_true_eq]
        omega
      have hlow : isLowSurrogate (0xDC00 + (c.toNat - 0x10000) % 0x400) = true := by
        simp only [isLowSurrogate, Bool.and_eq_true, decide_eq_true_eq]
        omega
      rw [hunits, List.cons_append, List.singleton_append, wellFormed_pair hhigh, hlow, ih]
      rfl

end Text

/-! ## Escapes -/

namespace Token

namespace EscapedUnit

theorem value_lt (u : EscapedUnit) : u.value < 0x10000 := u.unit.toNat_lt

theorem hexValue?_hexDigit : ∀ capital, ∀ n < 0x10, Text.hexValue? (Text.hexDigit capital n) = some n := by
  decide

/-- The digits of a unit are read back as its value. -/
theorem unit?_digits (u : EscapedUnit) (more : List Char) :
    Text.Escape.unit? (u.digits ++ more) = some u.value := by
  have hlt := u.value_lt
  have hfirst := hexValue?_hexDigit u.capitals.1 (u.value / 0x1000) (by omega)
  have hsecond := hexValue?_hexDigit u.capitals.2.1 (u.value / 0x100 % 0x10) (by omega)
  have hthird := hexValue?_hexDigit u.capitals.2.2.1 (u.value / 0x10 % 0x10) (by omega)
  have hfourth := hexValue?_hexDigit u.capitals.2.2.2 (u.value % 0x10) (by omega)
  simp only [digits, List.cons_append, Text.Escape.unit?, Text.hexQuad?, hfirst, hsecond, hthird, hfourth,
    Option.bind_eq_bind, Option.bind_some, Option.pure_def, Option.some.injEq]
  omega

/-- How an escape is read, by the kind of its unit. -/
theorem read_digits (u : EscapedUnit) (more : List Char) : Text.Escape.read ('u' :: u.digits ++ more) =
    if Text.isHighSurrogate u.value then Text.Escape.readLow u.value more
    else if Text.isLowSurrogate u.value then .error .loneLow
    else .ok (Char.ofNat u.value, 5) := by
  have hdrop : (u.digits ++ more).drop 4 = more := rfl
  rw [List.cons_append, Text.Escape.read, if_pos rfl, u.unit?_digits]
  simp only [hdrop]

/-- How an escape is read behind a high surrogate. -/
theorem readLow_write (high : Nat) (u : EscapedUnit) (more : List Char) :
    Text.Escape.readLow high (u.write ++ more) =
      if Text.isLowSurrogate u.value then .ok (Char.ofNat (Text.ofPair high u.value), 11)
      else .error .badLow := by
  simp only [write, List.cons_append, Text.Escape.readLow, u.unit?_digits]

end EscapedUnit

/-! ## Scans -/

variable {taken total n : Nat} {c : Char} {cs : List Char} {us vs : List Nat}

/-- An escape that can be read puts the units of its character in front. -/
theorem Yields.cons (escape : List Char) (hlength : escape.length = n)
    (hread : Text.Escape.read (escape ++ cs) = .ok (c, n))
    (hunits : Text.unitsOfChar c = vs) (hformed : Text.wellFormed (vs ++ us) = Text.wellFormed us)
    (h : Yields us total (scanQuoted (taken + 1 + n) cs)) :
    Yields (vs ++ us) total (scanQuoted taken ('\\' :: (escape ++ cs))) := by
  rw [scanQuoted, if_neg (by decide), if_pos rfl, hread]
  simp only [List.drop_left' hlength]
  cases hrest : scanQuoted (taken + 1 + n) cs with
  | error fault =>
    rw [hrest] at h
    exact hformed.trans h
  | ok r =>
    rw [hrest] at h
    obtain ⟨hus, hcs, htotal⟩ := h
    exact ⟨hformed.trans hus, by rw [List.flatMap_cons, hunits, hcs], htotal⟩

/-- An escape that cannot be read makes the whole text none. -/
theorem Yields.fault {fault : Text.Escape.Fault} (hread : Text.Escape.read cs = .error fault)
    (hformed : Text.wellFormed us = false) : Yields us total (scanQuoted taken ('\\' :: cs)) := by
  rw [scanQuoted, if_neg (by decide), if_pos rfl, hread]
  exact hformed

/-- The escape of a unit that is no high surrogate is a character of its own, or a fault. -/
theorem Yields.single {u : EscapedUnit} (hhigh : Text.isHighSurrogate u.value = false)
    (h : Yields us total (scanQuoted (taken + 6) cs)) :
    Yields (u.value :: us) total (scanQuoted taken (u.write ++ cs)) := by
  have hread := u.read_digits cs
  have hformed := Text.wellFormed_cons hhigh us
  rw [if_neg (by rw [hhigh]; decide)] at hread
  by_cases hlow : Text.isLowSurrogate u.value = true
  · rw [if_pos hlow] at hread
    rw [hlow, Bool.not_true, Bool.false_and] at hformed
    exact .fault hread hformed
  · rw [if_neg hlow] at hread
    rw [Bool.not_eq_true] at hlow
    rw [hlow, Bool.not_false, Bool.true_and] at hformed
    exact .cons ('u' :: u.digits) rfl hread (Text.unitsOfChar_scalar u.value_lt hhigh hlow) hformed h

/-- The escape of a high surrogate is one character together with the next one, or a fault. -/
theorem Yields.pair {u v : EscapedUnit} (hhigh : Text.isHighSurrogate u.value = true)
    (h : Yields us total (scanQuoted (taken + 12) cs)) :
    Yields (u.value :: v.value :: us) total (scanQuoted taken (u.write ++ (v.write ++ cs))) := by
  have hread := u.read_digits (v.write ++ cs)
  have hformed := Text.wellFormed_pair (v := v.value) hhigh us
  rw [if_pos hhigh, v.readLow_write] at hread
  by_cases hlow : Text.isLowSurrogate v.value = true
  · rw [if_pos hlow] at hread
    rw [hlow, Bool.true_and] at hformed
    exact .cons ('u' :: u.digits ++ v.write) rfl hread (Text.unitsOfChar_pair hhigh hlow) hformed h
  · rw [if_neg hlow] at hread
    rw [Bool.not_eq_true] at hlow
    rw [hlow, Bool.false_and] at hformed
    exact .fault hread hformed

theorem length_escapes (us : List EscapedUnit) : (us.flatMap EscapedUnit.write).length = 6 * us.length := by
  induction us with
  | nil => rfl
  | cons u us ih =>
    rw [List.flatMap_cons, List.length_append, ih, List.length_cons]
    simp only [EscapedUnit.write, EscapedUnit.digits, List.length_cons, List.length_nil]
    omega

/-- **The scan of a name written in units** yields the text with these units, or a fault if there is none. -/
theorem yields_units (us : List EscapedUnit) (taken : Nat) :
    Yields (us.map EscapedUnit.value) (taken + 6 * us.length + 1)
      (scanQuoted taken (us.flatMap EscapedUnit.write ++ ['"'])) := by
  match us with
  | [] =>
    rw [List.flatMap_nil, List.nil_append, scanQuoted, if_pos rfl]
    exact ⟨rfl, rfl, rfl⟩
  | u :: us =>
    rw [List.flatMap_cons, List.append_assoc, List.map_cons]
    cases hhigh : Text.isHighSurrogate u.value with
    | false =>
      have hrest := yields_units us (taken + 6)
      rw [show taken + 6 + 6 * us.length + 1 = taken + 6 * (us.length + 1) + 1 by omega] at hrest
      exact .single hhigh hrest
    | true =>
      match us with
      | [] =>
        have hread := u.read_digits ['"']
        rw [if_pos hhigh] at hread
        exact .fault hread (Text.wellFormed_lone hhigh)
      | v :: us =>
        have hrest := yields_units us (taken + 12)
        rw [show taken + 12 + 6 * us.length + 1 = taken + 6 * (us.length + 1 + 1) + 1 by omega] at hrest
        rw [List.flatMap_cons, List.append_assoc, List.map_cons]
        exact .pair hhigh hrest

end Token

/-- **Escapes are UTF-16.**  A name written with one escape of four digits, in either case, for each of any
16-bit units is scanned exactly if the units are well-formed UTF-16, that is, if they are those of a text;
and then it is the name with exactly these units. -/
theorem TokenRow.ofText_units (us : List Token.EscapedUnit) :
    ((∃ row, ofText (Token.writeUnits us) = .ok row) ↔
      Text.wellFormed (us.map Token.EscapedUnit.value) = true) ∧
    (Text.wellFormed (us.map Token.EscapedUnit.value) = true ↔
      ∃ name, Text.units name = us.map Token.EscapedUnit.value) ∧
    ∀ row, ofText (Token.writeUnits us) = .ok row →
      ∃ name, row.tokens = [.quoted name] ∧ Text.units name = us.map Token.EscapedUnit.value := by
  have hyields := Token.yields_units us 1
  have hlist : (Token.writeUnits us).toList = '"' :: (us.flatMap Token.EscapedUnit.write ++ ['"']) :=
    String.toList_ofList
  cases hscan : Token.scanQuoted 1 (us.flatMap Token.EscapedUnit.write ++ ['"']) with
  | error fault =>
    rw [hscan] at hyields
    have hformed : Text.wellFormed (us.map Token.EscapedUnit.value) = false := hyields
    have hrefused : ∀ row, ofText (Token.writeUnits us) ≠ .ok row := by
      intro row hrow
      have htoken : Token.scan '"' (us.flatMap Token.EscapedUnit.write ++ ['"']) = .error fault := by
        unfold Token.scan
        simp only [hscan]
      rw [ofText, hlist, scanFrom, if_neg (by decide)] at hrow
      simp only [htoken, reduceCtorEq] at hrow
    refine ⟨?_, ?_, fun row hrow => absurd hrow (hrefused row)⟩
    · rw [hformed]
      exact iff_of_false (not_exists.2 hrefused) (by decide)
    · rw [hformed]
      refine iff_of_false (by decide) ?_
      rintro ⟨name, hname⟩
      rw [← hname, Text.wellFormed_units] at hformed
      cases hformed
  | ok r =>
    obtain ⟨cs, total⟩ := r
    rw [hscan] at hyields
    obtain ⟨hformed, hflat, rfl⟩ := hyields
    have hunits : Text.units (String.ofList cs) = us.map Token.EscapedUnit.value := by
      rw [Text.units, String.toList_ofList, hflat]
    have hscans : Scans (Token.writeUnits us).toList [.quoted (String.ofList cs)] := by
      rw [hlist]
      refine .one rfl ?_
      have htotal : 1 + 6 * us.length + 1 - 1 =
          (us.flatMap Token.EscapedUnit.write ++ ['"']).length := by
        rw [List.length_append, Token.length_escapes, List.length_singleton]
        omega
      unfold Token.scan
      simp only [hscan, htotal]
    obtain ⟨row, hrow, htokens⟩ := Scans.ofText.2 hscans
    refine ⟨iff_of_true ⟨row, hrow⟩ hformed, iff_of_true hformed ⟨_, hunits⟩, fun row' hrow' => ?_⟩
    rw [hrow] at hrow'
    cases hrow'
    exact ⟨_, htokens, hunits⟩

end JsonQuery
