import JsonQuery.Engine
import JsonQuery.Proofs.Grammar.Checked

/-!
# How high an expression can grow

The allowance of nesting is spent on the way down and given back on return, so that a chain behind a
nested expression counts anew.

* `Grammar.ceiling` — the greatest height within an allowance.
* `Grammar.height_le_ceiling` — no expression that is read is higher.
* `Grammar.tower` — a text within an allowance, the expression of which is that high.
* `Expr.height_of_parse` — both for texts, and the allowances within which four times the allowance
  is a bound.
-/

namespace JsonQuery

namespace Grammar

/-- The greatest height within an allowance: half the allowance times three more than it. -/
def ceiling : Nat → Nat
  | 0 => 0
  | depth + 1 => ceiling depth + (depth + 2)

theorem two_mul_ceiling (depth : Nat) : 2 * ceiling depth = depth * (depth + 3) := by
  induction depth with
  | zero => rfl
  | succ depth ih =>
    rw [ceiling, Nat.mul_add, ih]
    simp only [Nat.mul_add, Nat.add_mul]
    omega

/-! ## No expression is higher -/

variable {arity? : String → Option Arity} {S : Reading} {power : Nat} {ts rest : List Token}
  {e left lhs : Expr} {b : Nat}

theorem height_items_le {es : List Expr} (h : ∀ e ∈ es, e.height ≤ b) : Expr.heightItems es ≤ b := by
  induction es with
  | nil => exact Nat.zero_le _
  | cons e es ih =>
    have he := h e List.mem_cons_self
    have hes := ih fun e he => h e (List.mem_cons_of_mem _ he)
    exact Nat.max_le.2 ⟨he, hes⟩

theorem height_pairs_le {ps : List (String × Expr)} (h : ∀ p ∈ ps, p.2.height ≤ b) :
    Expr.heightPairs ps ≤ b := by
  induction ps with
  | nil => exact Nat.zero_le _
  | cons p ps ih =>
    have hp := h p List.mem_cons_self
    have hps := ih fun p hp => h p (List.mem_cons_of_mem _ hp)
    exact Nat.max_le.2 ⟨hp, hps⟩

section Parts

variable (hS : ∀ {power ts e rest}, S power ts e rest → e.height ≤ b)
include hS

theorem height_list_le {es : List Expr} {close : Closing} (h : Sequence (S 0) close ts es rest) :
    Expr.heightItems es ≤ b :=
  height_items_le (h.forall_mem (Q := fun e => e.height ≤ b) fun h => hS h)

theorem height_hash_le {ps : List (String × Expr)} (h : Sequence (Named S) .brace ts ps rest) :
    Expr.heightPairs ps ≤ b := by
  have hnamed : ∀ {ts p rest}, Named S ts p rest → p.2.height ≤ b := by
    intro ts p rest h
    cases h with
    | identifier h => exact hS h
    | quoted h => exact hS h
  exact height_pairs_le (h.forall_mem (Q := fun p => p.2.height ≤ b) hnamed)

theorem AfterDot.height_le (h : AfterDot S power ts e rest) : e.height ≤ 1 + b := by
  cases h with
  | list h => exact Nat.add_le_add_left (height_list_le (S := S) hS h) 1
  | hash h => exact Nat.add_le_add_left (height_hash_le (S := S) hS h) 1
  | step _ h => exact Nat.le_add_left_of_le (hS h)

theorem Projected.height_le (h : Projected S power ts e rest) : e.height ≤ 1 + b := by
  cases h with
  | none => exact Nat.le_add_right 1 b
  | dot h => exact h.height_le hS
  | bracket h => exact Nat.le_add_left_of_le (hS h)
  | filter h => exact Nat.le_add_left_of_le (hS h)

theorem Bracketed.height_le (h : Bracketed S lhs ts e rest) :
    e.height ≤ 1 + max lhs.height (1 + b) := by
  cases h with
  | index =>
    unfold indexed
    split <;> simp only [Expr.height] <;> omega
  | list h =>
    have := h.height_le hS
    simp only [Expr.height]
    omega
  | slice _ h =>
    have := h.height_le hS
    simp only [Expr.height]
    omega

theorem Filtered.height_le (h : Filtered S lhs ts e rest) :
    e.height ≤ 1 + max lhs.height (1 + b) := by
  obtain ⟨hpredicate, hrhs⟩ := h
  have := hS hpredicate
  have := hrhs.height_le hS
  simp only [Expr.height]
  omega

/-- An expression starts at most two nodes above the expressions nested in it. -/
theorem Primary.height_le (h : Primary arity? S ts e rest) : e.height ≤ 2 + b := by
  cases h with
  | current | identifier | quoted | raw | literal =>
    simp only [Expr.height]
    omega
  | call _ _ h =>
    cases h with
    | none =>
      simp only [Expr.height, Expr.heightItems]
      omega
    | some _ h =>
      have := height_list_le (S := S) hS h
      simp only [Expr.height]
      omega
  | values h | flatten h =>
    have := h.height_le hS
    simp only [Expr.height]
    omega
  | bracketed h | filter h =>
    have := h.height_le hS
    simp only [Expr.height] at this
    omega
  | multiList _ h =>
    have := height_list_le (S := S) hS h
    simp only [Expr.height]
    omega
  | multiHash h =>
    have := height_hash_le (S := S) hS h
    simp only [Expr.height]
    omega
  | reference h | not h =>
    have := hS h
    simp only [Expr.height]
    omega
  | group h => exact Nat.le_add_left_of_le (hS h)

/-- A token that takes an expression further adds one node above it, or stands one node above what
is nested behind it. -/
theorem Extension.height_le (h : Extension S left ts e rest) :
    e.height ≤ 1 + max left.height (1 + b) := by
  cases h with
  | values h | subexpr _ h | flatten h =>
    have := h.height_le hS
    simp only [Expr.height]
    omega
  | bracketed h | filter h => exact h.height_le hS
  | pipe h | binary _ h =>
    have := hS h
    simp only [Expr.height]
    omega
  | resembles =>
    simp only [Expr.height]
    omega

end Parts

theorem ceiling_mono {n depth : Nat} (h : n ≤ depth) : ceiling n ≤ ceiling depth := by
  induction h with
  | refl => exact Nat.le_refl _
  | step _ ih => exact Nat.le_trans ih (Nat.le_add_right _ _)

/-- No expression that is read within an allowance is higher than its ceiling. -/
theorem height_le_ceiling {limit depth : Nat}
    (h : expression arity? limit depth power ts = .ok (e, rest)) : e.height ≤ ceiling depth := by
  refine expression_induction (P := fun depth _ _ e _ => e.height ≤ ceiling depth)
    (C := fun depth n _ _ left _ => n ≤ depth ∧ left.height + n ≤ ceiling (depth + 1))
    ?start ?step ?stop _ _ _ _ _ h
  case start =>
    intro depth _ _ left _ h
    have := h.height_le fun h => h.2
    refine ⟨Nat.le_refl _, ?_⟩
    rw [ceiling]
    omega
  case step =>
    -- what is nested in a link lies below the ceiling of what is left, which is no higher
    intro depth n _ _ left _ left' _ hleft _ h
    have := h.height_le fun h => h.2
    have : ceiling n ≤ ceiling depth := ceiling_mono (by omega)
    refine ⟨by omega, ?_⟩
    rw [ceiling] at hleft ⊢
    omega
  case stop =>
    intro depth n _ _ e _ hleft _
    omega

/-! ## Towers are that high -/

/-- As many indices as given, one behind the other. -/
def indices : Nat → List Char
  | 0 => []
  | n + 1 => '[' :: '0' :: ']' :: indices n

/-- A text with a list inside of a projection at each level, and as many indices behind the list as
the allowance of that level has left. -/
def tower : Nat → List Char
  | 0 => ['*']
  | n + 1 => '*' :: '.' :: '[' :: (tower n ++ ']' :: indices (n + 1))

/-- The tokens of `indices`. -/
def indexTokens : Nat → List Token
  | 0 => []
  | n + 1 => .openBracket :: .number 0 :: .closeBracket :: indexTokens n

/-- The tokens of a tower. -/
def towerTokens : Nat → List Token
  | 0 => [.star]
  | n + 1 => .star :: .dot :: .openBracket :: (towerTokens n ++ .closeBracket :: indexTokens (n + 1))

/-- An expression with `n` indices behind it. -/
def withIndices : Nat → Expr → Expr
  | 0, e => e
  | n + 1, e => withIndices n (.subexpr e (.index 0))

/-- The expression of a tower. -/
def towerExpr : Nat → Expr
  | 0 => .project .values .current .current
  | n + 1 => withIndices (n + 1) (.project .values .current (.multiList [towerExpr n]))

theorem scan_zero (cs : List Char) : Token.scan '0' (']' :: cs) = .ok (.number 0, 0) := by
  have hdigit : Text.isDigit ']' = false := by decide
  have hscan : Token.scan '0' (']' :: cs) = Token.scanNumber '0' (']' :: cs) := by
    simp [Token.scan, Text.isDigit]
  have hzero : Token.int64? (Text.ofDigits ['0']) = some 0 := by decide
  simp [hscan, Token.scanNumber, hdigit, hzero]

theorem scans_indices {cs : List Char} {ts : List Token} (h : Scans cs ts) (n : Nat) :
    Scans (indices n ++ cs) (indexTokens n ++ ts) := by
  induction n with
  | zero => exact h
  | succ n ih =>
    have hclose := Scans.token (c := ']') (n := 0) (by decide) rfl ih
    exact .token (n := 0) (by decide) rfl (.token (n := 0) (by decide) (scan_zero _) hclose)

theorem scans_tower {cs : List Char} {ts : List Token} (h : Scans cs ts) (n : Nat) :
    Scans (tower n ++ cs) (towerTokens n ++ ts) := by
  induction n generalizing cs ts with
  | zero => exact .token (n := 0) (by decide) rfl h
  | succ n ih =>
    have hinner := ih (.token (c := ']') (n := 0) (by decide) rfl (scans_indices h (n + 1)))
    have hopen : Scans ('[' :: (tower n ++ ']' :: (indices (n + 1) ++ cs)))
        (.openBracket :: (towerTokens n ++ .closeBracket :: (indexTokens (n + 1) ++ ts))) := by
      refine .token (n := 0) (by decide) ?_ hinner
      cases n <;> rfl
    have hall := Scans.token (c := '*') (n := 0) (by decide) rfl
      (.token (c := '.') (n := 0) (by decide) rfl hopen)
    simpa [tower, towerTokens] using hall

theorem chain_indices {limit : Nat} (hrest : Token.nextPower rest = 0) (n : Nat)
    (hleft : left ≠ .current) :
    chain arity? limit n 0 left (indexTokens n ++ rest) = .ok (withIndices n left, rest) := by
  induction n generalizing left with
  | zero =>
    rw [chain]
    simp [indexTokens, hrest, withIndices]
  | succ n ih =>
    have hindexed : indexed left 0 = .subexpr left (.index 0) := by
      cases left <;> first | rfl | exact absurd rfl hleft
    have hextend : extend (expression arity? limit n) left (indexTokens (n + 1) ++ rest) =
        .ok (indexed left 0, indexTokens n ++ rest) := extend_ok.2 (.bracketed .index)
    rw [chain, if_neg (by simp [indexTokens, Token.nextPower, Token.power])]
    simp only [hextend]
    rw [hindexed]
    exact ih (by simp)

/-- A tower is read within an allowance one above its number. -/
theorem expression_tower {limit : Nat} (hrest : Token.nextPower rest = 0) (n : Nat) :
    expression arity? limit (n + 1) 0 (towerTokens n ++ rest) = .ok (towerExpr n, rest) := by
  induction n generalizing rest with
  | zero =>
    have hprimary : primary arity? (expression arity? limit 0) (.star :: rest) =
        .ok (.project .values .current .current, rest) :=
      primary_ok.2 (.values (.none (by rw [hrest]; decide)))
    rw [expression]
    simp only [towerTokens, List.singleton_append, hprimary]
    exact chain_indices hrest 0 (by simp)
  | succ n ih =>
    have hprimary : primary arity? (expression arity? limit (n + 1)) (towerTokens (n + 1) ++ rest) =
        .ok (.project .values .current (.multiList [towerExpr n]), indexTokens (n + 1) ++ rest) := by
      have hinner := @ih (.closeBracket :: (indexTokens (n + 1) ++ rest)) rfl
      refine primary_ok.2 ?_
      simp only [towerTokens, List.cons_append, List.append_assoc]
      exact .values (.dot (.list (.last hinner rfl)))
    rw [expression]
    simp only [hprimary]
    exact chain_indices hrest (n + 1) (by simp)

theorem height_withIndices (n : Nat) (e : Expr) (he : 1 ≤ e.height) :
    (withIndices n e).height = e.height + n := by
  induction n generalizing e with
  | zero => rfl
  | succ n ih =>
    rw [withIndices, ih _ (by simp [Expr.height])]
    simp only [Expr.height]
    omega

theorem height_towerExpr (n : Nat) : (towerExpr n).height = ceiling (n + 1) := by
  induction n with
  | zero => rfl
  | succ n ih =>
    rw [towerExpr, height_withIndices _ _ (by simp [Expr.height])]
    simp only [Expr.height, Expr.heightItems, ih]
    rw [ceiling.eq_2 (n + 1)]
    omega

end Grammar

/-! ## Texts -/

theorem Expr.parse_tower (arity? : String → Option Arity) (n : Nat) :
    Expr.parse arity? (n + 1) (String.ofList (Grammar.tower n)) = .ok (Grammar.towerExpr n) := by
  refine Expr.parse_ok.2 ⟨Grammar.towerTokens n, ?_, ?_⟩
  · simpa using Grammar.scans_tower .done n
  · have hread : Grammar.expression arity? (n + 1) (n + 1) 0 (Grammar.towerTokens n ++ []) = _ :=
      Grammar.expression_tower rfl n
    simpa using hread

/-- **The height of an expression within an allowance.**  No text that is read within an allowance
gives a tree with more than half the allowance times three more than it as its height, and for every
allowance above zero some text gives a tree of that height.  So four times the allowance bounds the
height of all trees only for allowances up to five. -/
theorem Expr.height_of_parse (arity? : String → Option Arity) (limit : Nat) :
    (∀ text e, Expr.parse arity? limit text = .ok e → 2 * e.height ≤ limit * (limit + 3)) ∧
    (1 ≤ limit → ∃ text e, Expr.parse arity? limit text = .ok e ∧
      2 * e.height = limit * (limit + 3)) ∧
    ((∀ text e, Expr.parse arity? limit text = .ok e → e.height ≤ 4 * limit) ↔ limit ≤ 5) := by
  have hbound : ∀ text e, Expr.parse arity? limit text = .ok e → 2 * e.height ≤ limit * (limit + 3) := by
    intro text e h
    obtain ⟨_, _, hread⟩ := Expr.parse_ok.1 h
    rw [← Grammar.two_mul_ceiling]
    exact Nat.mul_le_mul_left 2 (Grammar.height_le_ceiling hread)
  have hattained : 1 ≤ limit → ∃ text e, Expr.parse arity? limit text = .ok e ∧
      2 * e.height = limit * (limit + 3) := by
    intro hlimit
    obtain ⟨n, rfl⟩ : ∃ n, limit = n + 1 := ⟨limit - 1, by omega⟩
    refine ⟨_, _, Expr.parse_tower arity? n, ?_⟩
    rw [Grammar.height_towerExpr, Grammar.two_mul_ceiling]
  refine ⟨hbound, hattained, fun hall => ?_, fun hlimit text e h => ?_⟩
  · -- beyond five the highest tree breaks the bound
    rcases Nat.eq_zero_or_pos limit with rfl | hpos
    · exact Nat.zero_le 5
    · obtain ⟨text, e, hparse, hheight⟩ := hattained hpos
      have hle := hall text e hparse
      have hmul : limit * (limit + 3) ≤ limit * 8 := by omega
      have := Nat.le_of_mul_le_mul_left hmul hpos
      omega
  · have := hbound text e h
    have : limit * (limit + 3) ≤ limit * 8 := Nat.mul_le_mul_left limit (by omega)
    omega

/-- Within an allowance of six a tower of 27 nodes is read, three more than four times six. -/
theorem Expr.height_of_tower_within_six : ∃ e,
    Expr.parse (Library.functions .plain true).arity? 6
      "*.[*.[*.[*.[*.[*][0]][0][0]][0][0][0]][0][0][0][0]][0][0][0][0][0]" = .ok e ∧
    e.height = 27 ∧ 4 * 6 < e.height ∧ 2 * e.height ≤ 6 * (6 + 3) := by
  have htext : String.ofList (Grammar.tower 5) =
      "*.[*.[*.[*.[*.[*][0]][0][0]][0][0][0]][0][0][0][0]][0][0][0][0][0]" := by decide
  have hparse := Expr.parse_tower (Library.functions .plain true).arity? 5
  rw [htext] at hparse
  exact ⟨_, hparse, by decide, by decide, (Expr.height_of_parse _ 6).1 _ _ hparse⟩

end JsonQuery
