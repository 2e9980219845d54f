import JsonQuery.Text.Units
import Mathlib.Order.Compare

/-!
# The order of texts

* `Text.units_injective` — a text is known from its UTF-16 units.
* `Text.compareLists_eq` — lists of units are ordered lexicographically.
-/

namespace JsonQuery.Text

/-! ## Units -/

/-- The units of a text start with those of its first character, and no other character has them. -/
theorem unitsOfChar_append {c d : Char} {us vs : List Nat}
    (h : unitsOfChar c ++ us = unitsOfChar d ++ vs) : c = d ∧ us = vs := by
  have hc : c.toNat < 0xD800 ∨ 0xDFFF < c.toNat ∧ c.toNat < 0x110000 := c.valid
  have hd : d.toNat < 0xD800 ∨ 0xDFFF < d.toNat ∧ d.toNat < 0x110000 := d.valid
  unfold unitsOfChar at h
  simp only at h
  split at h <;> split at h <;>
    simp only [List.cons_append, List.nil_append, List.cons.injEq] at h
  · exact ⟨Char.toNat_inj.1 h.1, h.2⟩
  · omega
  · omega
  · exact ⟨Char.toNat_inj.1 (by omega), h.2.2⟩

theorem unitsOfChar_ne_nil (c : Char) : unitsOfChar c ≠ [] := by
  unfold unitsOfChar
  simp only
  split <;> simp

/-- A text is known from its UTF-16 units. -/
theorem units_injective {s t : String} (h : units s = units t) : s = t := by
  have hlists : ∀ cs ds : List Char, cs.flatMap unitsOfChar = ds.flatMap unitsOfChar → cs = ds := by
    intro cs
    induction cs with
    | nil =>
      intro ds h
      cases ds with
      | nil => rfl
      | cons d ds =>
        have hempty := (List.append_eq_nil_iff.1 h.symm).1
        exact absurd hempty (unitsOfChar_ne_nil d)
    | cons c cs ih =>
      intro ds h
      cases ds with
      | nil => exact absurd (List.append_eq_nil_iff.1 h).1 (unitsOfChar_ne_nil c)
      | cons d ds =>
        obtain ⟨rfl, hrest⟩ := unitsOfChar_append h
        rw [ih ds hrest]
  exact String.toList_inj.1 (hlists _ _ h)

/-! ## Order -/

/-- Lists of units are ordered lexicographically. -/
theorem compareLists_eq (us vs : List Nat) : compareLists us vs = List.compareLex compare us vs := by
  induction us generalizing vs with
  | nil => cases vs <;> rfl
  | cons u us ih =>
    cases vs with
    | nil => rfl
    | cons v vs => rw [compareLists, ih, List.compareLex_cons_cons]

/-- Only identical texts are equal in order. -/
theorem eq_of_compareUnits {s t : String} (h : compareUnits s t = .eq) : s = t := by
  rw [compareUnits, compareLists_eq] at h
  exact units_injective (Std.LawfulEqCmp.eq_of_compare h)

end JsonQuery.Text
