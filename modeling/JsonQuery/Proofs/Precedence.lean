import JsonQuery.Proofs.Grammar.Operators
import JsonQuery.Proofs.Grammar.Text

/-!
# Operators in a text

* `InfixOperand` — a text that is an identifier, or any expression in parentheses.
* `InfixRow.scans` — the tokens of operands with operators between them.
* `Expr.parse_infix` — such a text is parsed to the one tree with its operands and operators in which
  weaker operators stand above stronger ones and equal ones group to the left.
-/

namespace JsonQuery

open Grammar

variable {arity? : String → Option Arity} {s : String} {e : Expr}

/-! ## Operands -/

/-- The texts of operands, and their expressions. -/
inductive InfixOperand.Spells (arity? : String → Option Arity) : String → Expr → Prop
  | identifier {text name} : Scans text.toList [.identifier name] → Spells arity? text (.identifier name)
  | quoted {text name} : Scans text.toList [.quoted name] → Spells arity? text (.identifier name)
  | group {text limit e} : Expr.parse arity? limit text = .ok e → Spells arity? ("(" ++ text ++ ")") e
  | padded {text e before behind} : (∀ c ∈ String.toList before, Json.isSpace c = true) →
      (∀ c ∈ String.toList behind, Json.isSpace c = true) → Spells arity? text e →
      Spells arity? (before ++ text ++ behind) e

/-- An operand: an identifier or an accepted text in parentheses, with blanks around it. -/
structure InfixOperand (arity? : String → Option Arity) where
  text : String
  expr : Expr
  spells : InfixOperand.Spells arity? text expr

/-- A character that an identifier does not go on with, if there is one. -/
def endsName (more : List Char) : Prop := ∀ d ∈ more.head?, Token.isNamePart d = false

theorem isNamePart_of_isSpace {c : Char} (h : Json.isSpace c = true) : Token.isNamePart c = false := by
  simp only [Json.isSpace, Bool.or_eq_true, beq_iff_eq] at h
  rcases h with ((rfl | rfl) | rfl) | rfl <;> decide

/-- A name is scanned in front of everything that does not make it longer. -/
theorem Scans.name {cs more : List Char} {t : Token} {post : List Token} (h : Scans cs [t])
    (ht : ∀ d, Token.isNamePart d = false → t.endsBefore d = true) (hends : endsName more)
    (hmore : Scans more post) : Scans (cs ++ more) (t :: post) := by
  cases more with
  | nil =>
    cases hmore
    rw [List.append_nil]
    exact h
  | cons d more =>
    refine h.append_of_ends (fun u hu => ?_) hmore
    rw [List.mem_singleton.1 hu]
    exact ht d (hends d rfl)

/-- An operand has tokens that stand for its expression, whatever operator or end follows. -/
theorem InfixOperand.Spells.scans (h : Spells arity? s e) : ∃ ts, Stands arity? ts e ∧
    ∀ {more post}, endsName more → Scans more post → Scans (s.toList ++ more) (ts ++ post) := by
  induction h with
  | identifier hscan =>
    refine ⟨_, stands_identifier _, fun hends hmore => hscan.name (fun d hd => ?_) hends hmore⟩
    simp only [Token.endsBefore, hd, Bool.not_false]
  | quoted hscan =>
    exact ⟨_, stands_quoted _, fun hends hmore => hscan.name (fun _ _ => rfl) hends hmore⟩
  | @group text limit e hparse =>
    obtain ⟨ts, hscan, hread⟩ := Expr.parse_ok.1 hparse
    refine ⟨_, Reads.stands ⟨limit, limit, hread⟩, fun {more post} _ hmore => ?_⟩
    have hgroup : Scans ('(' :: (text.toList ++ ')' :: more)) (.openParen :: (ts ++ .closeParen :: post)) :=
      hscan.group hmore
    simpa using hgroup
  | @padded text e before behind hbefore hbehind _ ih =>
    obtain ⟨ts, hstands, hscan⟩ := ih
    refine ⟨ts, hstands, fun {more post} hends hmore => ?_⟩
    have hinner : Scans (text.toList ++ (behind.toList ++ more)) (ts ++ post) := by
      refine hscan (fun d hd => ?_) (.blanks hbehind hmore)
      cases hblanks : behind.toList with
      | nil =>
        rw [hblanks] at hd
        exact hends d hd
      | cons b bs =>
        rw [hblanks] at hd
        cases hd
        exact isNamePart_of_isSpace (hbehind d (by simp [hblanks]))
    have hpadded := Scans.blanks hbefore hinner
    simpa using hpadded

/-- A token that starts with a bar or an equal sign is no name. -/
theorem Scans.head_of_name {cs : List Char} {t : Token} (h : Scans cs [t])
    (ht : (∃ name, t = .identifier name) ∨ ∃ name, t = .quoted name) :
    ∃ c cs', cs = c :: cs' ∧ c ≠ '|' ∧ c ≠ '=' := by
  cases h with
  | @blank c cs _ hspace _ =>
    refine ⟨c, cs, rfl, ?_, ?_⟩ <;> rintro rfl <;> cases hspace
  | @token c cs t n _ _ hscan _ =>
    refine ⟨c, cs, rfl, ?_, ?_⟩
    · rintro rfl
      simp only [Token.scan, Token.scanPair] at hscan
      split at hscan <;> cases hscan <;> rcases ht with ⟨_, ht⟩ | ⟨_, ht⟩ <;> cases ht
    · rintro rfl
      simp only [Token.scan] at hscan
      split at hscan <;> cases hscan <;> rcases ht with ⟨_, ht⟩ | ⟨_, ht⟩ <;> cases ht

/-- An operand starts with no character that would make the operator before it longer. -/
theorem InfixOperand.Spells.head (h : Spells arity? s e) :
    ∃ c cs, s.toList = c :: cs ∧ c ≠ '|' ∧ c ≠ '=' := by
  induction h with
  | identifier hscan => exact hscan.head_of_name (.inl ⟨_, rfl⟩)
  | quoted hscan => exact hscan.head_of_name (.inr ⟨_, rfl⟩)
  | @group text limit e _ => exact ⟨'(', (text ++ ")").toList, by simp, by decide, by decide⟩
  | @padded text e before behind hbefore _ _ ih =>
    obtain ⟨c, cs, htext, hbar, heq⟩ := ih
    cases hblanks : before.toList with
    | nil => exact ⟨c, cs ++ behind.toList, by simp [hblanks, htext], hbar, heq⟩
    | cons d ds =>
      have hspace : Json.isSpace d = true := hbefore d (by simp [hblanks])
      refine ⟨d, ds ++ text.toList ++ behind.toList, by simp [hblanks], ?_, ?_⟩ <;>
        rintro rfl <;> cases hspace

/-! ## Operators -/

theorem Infix.endsName_sign (o : Infix) (more : List Char) : endsName (o.sign.toList ++ more) := by
  intro d hd
  rcases o with _ | op
  · cases hd
    decide
  · cases op <;> cases hd <;> decide

/-- The sign of an operator is its token in front of everything that does not make it longer. -/
theorem Infix.scans_sign (o : Infix) {c : Char} {more : List Char} {post : List Token} (hbar : c ≠ '|')
    (heq : c ≠ '=') (hmore : Scans (c :: more) post) :
    Scans (o.sign.toList ++ c :: more) (o.token :: post) := by
  have hsign : Scans o.sign.toList [o.token] := by
    rcases o with _ | op
    · exact .token rfl rfl .done
    · cases op <;> exact .token rfl rfl .done
  have hends : o.token.endsBefore c = true := by
    rcases o with _ | op
    · simpa [Infix.token, Token.endsBefore] using hbar
    · cases op <;> simp [Infix.token, Token.endsBefore, heq]
  refine hsign.append_of_ends (fun t ht => ?_) hmore
  rw [List.mem_singleton.1 ht]
  exact hends

/-! ## Rows -/

/-- The text of a row. -/
def InfixRow.text (row : InfixRow (InfixOperand arity?)) : String :=
  row.first.text ++ String.join (row.rest.map fun p => p.1.sign ++ p.2.text)

/-- A row is scanned operand by operand and operator by operator. -/
theorem InfixRow.scans {spelled : InfixOperand arity? → List Token}
    (hscans : ∀ a {more post}, endsName more → Scans more post →
      Scans (a.text.toList ++ more) (spelled a ++ post))
    (row : InfixRow (InfixOperand arity?)) : Scans row.text.toList (row.tokens spelled) := by
  obtain ⟨first, rest⟩ := row
  have hrest : endsName (String.join (rest.map fun p => p.1.sign ++ p.2.text)).toList ∧
      Scans (String.join (rest.map fun p => p.1.sign ++ p.2.text)).toList
        (rest.flatMap fun p => p.1.token :: spelled p.2) := by
    induction rest with
    | nil => exact ⟨nofun, .done⟩
    | cons p rest ih =>
      obtain ⟨o, a⟩ := p
      obtain ⟨hends, hscan⟩ := ih
      obtain ⟨c, cs, htext, hbar, heq⟩ := a.spells.head
      have hoperand := hscans a hends hscan
      rw [htext, List.cons_append] at hoperand
      have hlink := o.scans_sign hbar heq hoperand
      simp only [List.map_cons, String.join_cons, String.toList_append, htext, List.append_assoc,
        List.flatMap_cons, List.cons_append]
      exact ⟨o.endsName_sign _, hlink⟩
  obtain ⟨hends, hscan⟩ := hrest
  have hrow := hscans first hends hscan
  simpa [InfixRow.text, InfixRow.tokens] using hrow

/-- **Precedence and associativity.**  Operands with infix operators between them are parsed, within
every large enough limit, to the one tree that has them in this order, has no weaker operator at the root
of a left side, and has only stronger ones at the root of a right side. -/
theorem Expr.parse_infix (row : InfixRow (InfixOperand arity?)) :
    ∃ t : InfixTree (InfixOperand arity?), t.row = row ∧ t.Ordered ∧
      (∀ u : InfixTree (InfixOperand arity?), u.row = row → u.Ordered → u = t) ∧
      ∃ bound, ∀ limit ≥ bound, Expr.parse arity? limit row.text = .ok (t.expr InfixOperand.expr) := by
  obtain ⟨spelled, hspelled⟩ := Classical.axiomOfChoice fun a : InfixOperand arity? => a.spells.scans
  have hrow : (InfixTree.ofRow row).row = row := InfixTree.row_ofRow row
  have hordered : (InfixTree.ofRow row).Ordered := InfixTree.ordered_ofRow row
  refine ⟨InfixTree.ofRow row, hrow, hordered, ?_, ?_⟩
  · rintro u rfl hu
    exact (InfixTree.ofRow_row hu).symm
  · have hread : Reads arity? 0 ((InfixTree.ofRow row).row.tokens spelled)
        ((InfixTree.ofRow row).expr InfixOperand.expr) [] := InfixTree.reads (fun a => (hspelled a).1) hordered
    rw [hrow] at hread
    obtain ⟨bound, hbound⟩ := hread.within
    exact ⟨bound, fun limit hle => Expr.parse_ok.2 ⟨_, row.scans fun a => (hspelled a).2, hbound limit hle limit⟩⟩

example : Expr.parse (fun _ => none) 10 "a||b&&c < (d | e) == f | \"g\"" = .ok (.pipe
    (.binary .or (.identifier "a") (.binary .and (.identifier "b") (.binary .eq
      (.binary .lt (.identifier "c") (.pipe (.identifier "d") (.identifier "e"))) (.identifier "f"))))
    (.identifier "g")) := by
  cbv

end JsonQuery
