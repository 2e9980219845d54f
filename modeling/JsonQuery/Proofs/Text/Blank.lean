import JsonQuery.Text.Blank
import Mathlib.Data.List.Basic
import Mathlib.Data.List.TakeWhile

/-!
# Blanks around a text

* `Text.trimStart_append`, `Text.trimEnd_append`, `Text.trim_append` — of a text between blanks the text is
  left.
* `Text.exists_trim` — every text is its middle between blanks.
-/

namespace JsonQuery.Text

variable {cs front back : List Char}

theorem trimStart_append (hfront : ∀ c ∈ front, isBlank c = true) (hstart : ∀ c ∈ cs.head?, isBlank c = false) :
    trimStart (front ++ cs) = cs := by
  rw [trimStart, List.dropWhile_append_of_pos hfront]
  cases cs with
  | nil => rfl
  | cons c cs => exact List.dropWhile_cons_of_neg (by simp [hstart c rfl])

theorem trimEnd_append (hback : ∀ c ∈ back, isBlank c = true) (hend : ∀ c ∈ cs.getLast?, isBlank c = false) :
    trimEnd (cs ++ back) = cs := by
  have hreverse : trimStart (back.reverse ++ cs.reverse) = cs.reverse :=
    trimStart_append (fun c hc => hback c (List.mem_reverse.1 hc)) fun c hc =>
      hend c (by rwa [List.head?_reverse] at hc)
  rw [trimEnd, List.reverse_append]
  exact (congrArg List.reverse hreverse).trans cs.reverse_reverse

/-- The blanks at the end are behind a start that is not blank. -/
theorem trimEnd_cons {c : Char} (h : isBlank c = false) (cs : List Char) : trimEnd (c :: cs) = c :: trimEnd cs := by
  unfold trimEnd
  rw [List.reverse_cons, List.dropWhile_append]
  split
  · rename_i hempty
    rw [List.isEmpty_iff.1 hempty, List.dropWhile_cons_of_neg (by simp [h])]
    rfl
  · rw [List.reverse_append]
    rfl

/-- Of a text between blanks that starts and ends with none, the text is left. -/
theorem trim_append (hfront : ∀ c ∈ front, isBlank c = true) (hback : ∀ c ∈ back, isBlank c = true)
    (hstart : ∀ c ∈ cs.head?, isBlank c = false) (hend : ∀ c ∈ cs.getLast?, isBlank c = false) (hne : cs ≠ []) :
    trim (front ++ (cs ++ back)) = cs := by
  have hhead : ∀ c ∈ (cs ++ back).head?, isBlank c = false := by
    rw [List.head?_append_of_ne_nil _ hne]
    exact hstart
  rw [trim, trimStart_append hfront hhead, trimEnd_append hback hend]

/-- Every text is what is left of it, between blanks. -/
theorem exists_trim (cs : List Char) : ∃ front back, cs = front ++ (trim cs ++ back) ∧
    (∀ c ∈ front, isBlank c = true) ∧ ∀ c ∈ back, isBlank c = true := by
  refine ⟨cs.takeWhile isBlank, ((trimStart cs).reverse.takeWhile isBlank).reverse, ?_,
    fun c hc => List.mem_takeWhile_imp hc, fun c hc => List.mem_takeWhile_imp (List.mem_reverse.1 hc)⟩
  have hend : trim cs ++ ((trimStart cs).reverse.takeWhile isBlank).reverse = trimStart cs := by
    rw [trim, trimEnd, ← List.reverse_append, List.takeWhile_append_dropWhile, List.reverse_reverse]
  rw [hend]
  exact List.takeWhile_append_dropWhile.symm

end JsonQuery.Text
