import JsonQuery.Proofs.Engine
import JsonQuery.Proofs.Text.Position

/-!
# The places of tokens and of faults

* `Spelled` — the tokens of a text, each with the text in front of it.
* `Token.fault_of_scan` — where in a token its fault can stand.
* `TokenRow.scanFrom_ok`, `TokenRow.scanFrom_error` — the places that a scan finds from any place on.
* `Engine.places_of_compile` — every token stands at the place behind the text in front of it, the places
  increase along a text, and a fault stands at the place of a character or of the end.
-/

namespace JsonQuery

/-- The tokens of the rest of a text, each with the text in front of it. -/
inductive Spelled : List Char → List Char → List (List Char × Token) → Prop
  | done {pre} : Spelled pre [] []
  | blank {pre c cs ts} : Json.isSpace c = true → Spelled (pre ++ [c]) cs ts → Spelled pre (c :: cs) ts
  | token {pre c cs t n ts} : Json.isSpace c = false → Token.scan c cs = .ok (t, n) →
      Spelled (pre ++ c :: cs.take n) (cs.drop n) ts → Spelled pre (c :: cs) ((pre, t) :: ts)

/-- The places of the characters of a text and of its end, but for the second half of a line break. -/
def Position.InText (text : List Char) (p : Position) : Prop :=
  ∃ before post, text = before ++ post ∧ Between before post ∧ p = behind before

/-- The places of the tokens of a row, and of its end. -/
def TokenRow.positions (row : TokenRow) : List Position :=
  row.placed.map PlacedToken.position ++ [row.finish]

/-! ## Faults within a token -/

namespace Token

variable {c : Char} {cs : List Char} {fault : Fault}

/-- A token takes no more characters than there are. -/
theorem le_length_of_scan {t : Token} {n : Nat} (h : scan c cs = .ok (t, n)) : n ≤ cs.length :=
  (scan_append (d := ',') [] (endsBefore_of_breaks (by decide) t) h).2

/-- A fault of a quoted name stands at the start of the token or at a backslash. -/
theorem fault_of_scanQuoted {pre : List Char} {taken : Nat} (htaken : pre.length = taken)
    (h : scanQuoted taken cs = .error fault) :
    fault.offset = 0 ∨ (pre ++ cs)[fault.offset]? = some '\\' := by
  fun_induction scanQuoted taken cs generalizing pre with
  | case1 =>
    cases h
    exact .inl rfl
  | case2 => cases h
  | case3 taken cs hquote bad hread =>
    cases h
    subst htaken
    exact .inr (by simp)
  | case4 => cases h
  | case5 taken cs c n hread bad hrest hquote ih =>
    cases h
    obtain ⟨-, hle⟩ := Text.Escape.read_append hread []
    have hpre : (pre ++ '\\' :: cs.take n).length = taken + 1 + n := by
      rw [List.length_append, List.length_cons, List.length_take, Nat.min_eq_left hle, htaken]
      omega
    simpa using ih hpre hrest
  | case6 => cases h
  | case7 taken c cs hquote hback bad hrest ih =>
    cases h
    have hpre : (pre ++ [c]).length = taken + 1 := by simp [htaken]
    simpa using ih hpre hrest

/-- A fault of a token stands at its start, at a backslash, or behind a minus sign. -/
theorem fault_of_scan (h : scan c cs = .error fault) :
    fault.offset = 0 ∨ (c :: cs)[fault.offset]? = some '\\' ∨ fault.offset = 1 ∧ c = '-' := by
  unfold scan at h
  split at h
  case h_17 =>
    split at h <;> cases h
    exact .inl rfl
  case h_18 =>
    split at h
    · cases h
    · rename_i hscan
      cases h
      have hopening : ['"'].length = 1 := rfl
      exact (fault_of_scanQuoted hopening hscan).imp_right .inl
  case h_19 =>
    split at h <;> cases h
    exact .inl rfl
  case h_20 =>
    split at h
    · cases h
      exact .inl rfl
    · split at h <;> cases h
      exact .inl rfl
  case h_21 =>
    split at h
    · unfold scanNumber at h
      dsimp only at h
      split at h
      · rename_i hminus
        cases h
        exact .inr (.inr ⟨rfl, hminus.1⟩)
      · split at h <;> cases h
        exact .inl rfl
    · split at h <;> cases h
      exact .inl rfl
  all_goals
    first
    | cases h
    | (split at h <;> cases h)

/-- A fault of a token stands behind a part of it and not within a line break, whatever is in front of the
token. -/
theorem place_of_fault (hc : Position.isBreak c = false) (h : scan c cs = .error fault) :
    ∃ before post, c :: cs = before ++ post ∧ before.length = fault.offset ∧
      ∀ pre, Position.Between (pre ++ before) post := by
  rcases fault_of_scan h with hstart | hback | ⟨hbehind, rfl⟩
  · refine ⟨[], c :: cs, rfl, hstart.symm, fun _ => Position.between_of_not_isBreak hc⟩
  · obtain ⟨hlt, hget⟩ := List.getElem?_eq_some_iff.1 hback
    refine ⟨(c :: cs).take fault.offset, (c :: cs).drop fault.offset, (List.take_append_drop _ _).symm,
      List.length_take_of_le (Nat.le_of_lt hlt), fun _ => ?_⟩
    rw [List.drop_eq_getElem_cons hlt, hget]
    exact Position.between_of_not_isBreak rfl
  · exact ⟨['-'], cs, rfl, hbehind.symm, fun _ => by simp [Position.Between]⟩

end Token

/-! ## Scans from a place on -/

namespace TokenRow

open Position

variable {p : Position} {c : Char} {pre cs : List Char} {row : TokenRow} {e : ParseError}

theorem isBreak_of_not_isSpace (h : Json.isSpace c = false) : isBreak c = false := by
  simp only [Json.isSpace, Bool.or_eq_false_iff] at h
  simp [isBreak, h.1.2, h.2]

/-- The place behind a token is found by a walk over it. -/
theorem along_token {t : Token} {n : Nat} (hp : p = Position.start.along pre.length (pre ++ c :: cs))
    (hscan : Token.scan c cs = .ok (t, n)) :
    p.along (n + 1) (c :: cs) =
      Position.start.along (pre ++ c :: cs.take n).length (pre ++ c :: cs.take n ++ cs.drop n) := by
  rw [along_append, List.cons_append, List.take_append_drop, ← hp, List.length_cons,
    List.length_take_of_le (Token.le_length_of_scan hscan)]

/-- A scan starts with nothing in front of it. -/
theorem start_eq_along (cs : List Char) :
    Position.start = Position.start.along ([] : List Char).length ([] ++ cs) := rfl

/-- A scan finds every token at the place behind what is in front of it, later and later. -/
theorem scanFrom_ok (hp : p = Position.start.along pre.length (pre ++ cs))
    (h : scanFrom p cs = .ok row) :
    (∃ ts, Spelled pre cs ts ∧ row.placed = ts.map fun (before, t) => ⟨t, behind before⟩) ∧
      row.finish = behind (pre ++ cs) ∧ (∀ q ∈ row.positions, p = q ∨ p.Before q) ∧
      row.positions.Pairwise Position.Before := by
  fun_induction scanFrom p cs generalizing pre row with
  | case1 p =>
    cases h
    have hplace : p = behind (pre ++ []) := by
      rw [hp, along_eq_behind (fun _ => by simp), List.append_nil]
    exact ⟨⟨[], .done, rfl⟩, hplace, by simp [positions], by simp [positions]⟩
  | case2 p c cs hspace ih =>
    have hnext : p.step c cs.head? = Position.start.along (pre ++ [c]).length (pre ++ [c] ++ cs) := by
      rw [along_append, List.singleton_append, ← hp]
      simp
    obtain ⟨⟨ts, hts, hplaced⟩, hfinish, hle, hincrease⟩ := ih hnext h
    rw [List.append_assoc] at hfinish
    refine ⟨⟨ts, .blank hspace hts, hplaced⟩, hfinish, fun q hq => ?_, hincrease⟩
    rcases step_le p c cs.head? with hstep | hstep
    · rw [hstep] at hle
      exact hle q hq
    · rcases hle q hq with rfl | hbefore
      · exact .inr hstep
      · exact .inr (hstep.trans hbefore)
  | case3 => cases h
  | case4 p c cs hspace t n hscan row' hrest ih =>
    cases h
    have hother : Json.isSpace c = false := by simpa using hspace
    have hbreak : isBreak c = false := isBreak_of_not_isSpace hother
    have hhere : p = behind pre := by
      rw [hp]
      exact along_eq_behind (between_of_not_isBreak hbreak)
    obtain ⟨⟨ts, hts, hplaced⟩, hfinish, hle, hincrease⟩ := ih (along_token hp hscan) hrest
    rw [List.append_assoc, List.cons_append, List.take_append_drop] at hfinish
    have hlater : ∀ q ∈ row'.positions, p.Before q := by
      intro q hq
      have hstep := before_along p hbreak n cs
      rcases hle q hq with rfl | hbefore
      · exact hstep
      · exact hstep.trans hbefore
    refine ⟨⟨(pre, t) :: ts, .token hother hscan hts, ?_⟩, hfinish, ?_, ?_⟩
    · simp only [hplaced, List.map_cons, hhere]
    · intro q hq
      rcases List.mem_cons.1 hq with rfl | hq
      · exact .inl rfl
      · exact .inr (hlater q hq)
    · exact List.pairwise_cons.2 ⟨hlater, hincrease⟩
  | case5 => cases h

/-- A scan that fails does so at the place of a character or of the end. -/
theorem scanFrom_error (hp : p = Position.start.along pre.length (pre ++ cs))
    (h : scanFrom p cs = .error e) : InText (pre ++ cs) e.position := by
  fun_induction scanFrom p cs generalizing pre with
  | case1 => cases h
  | case2 p c cs hspace ih =>
    have hnext : p.step c cs.head? = Position.start.along (pre ++ [c]).length (pre ++ [c] ++ cs) := by
      rw [along_append, List.singleton_append, ← hp]
      simp
    simpa using ih hnext h
  | case3 p c cs hspace fault hscan =>
    cases h
    have hbreak : isBreak c = false := isBreak_of_not_isSpace (by simpa using hspace)
    obtain ⟨before, post, heq, hlength, hbetween⟩ := Token.place_of_fault hbreak hscan
    refine ⟨pre ++ before, post, by rw [heq, List.append_assoc], hbetween pre, ?_⟩
    rw [← along_eq_behind (hbetween pre), along_append, ← heq, ← hp, hlength]
  | case4 => cases h
  | case5 p c cs hspace t n hscan bad hrest ih =>
    cases h
    simpa using ih (along_token hp hscan) hrest

/-- The tokens that are left over start at the place of a token, or at the end. -/
theorem place_mem (row : TokenRow) (remaining : Nat) : row.place remaining ∈ row.positions := by
  unfold place positions
  split
  · rename_i t rest hdrop
    have hmem : t ∈ row.placed := List.mem_of_mem_drop (hdrop ▸ List.mem_cons_self)
    exact List.mem_append_left _ (List.mem_map_of_mem hmem)
  · exact List.mem_append_right _ List.mem_cons_self

end TokenRow

/-- In front of a token is a part of the text, and behind that a character that is no blank. -/
theorem Spelled.split {pre cs before : List Char} {t : Token} {ts : List (List Char × Token)}
    (h : Spelled pre cs ts) (hmem : (before, t) ∈ ts) :
    ∃ c post, pre ++ cs = before ++ c :: post ∧ Json.isSpace c = false := by
  induction h with
  | done => cases hmem
  | blank hspace _ ih => simpa using ih hmem
  | token hspace hscan _ ih =>
    rcases List.mem_cons.1 hmem with heq | hmem
    · cases heq
      exact ⟨_, _, rfl, hspace⟩
    · simpa using ih hmem

/-- The tokens of a text stand in the text. -/
theorem TokenRow.positions_inText {text : String} {row : TokenRow} (h : TokenRow.ofText text = .ok row) :
    ∀ p ∈ row.positions, Position.InText text.toList p := by
  obtain ⟨⟨ts, hts, hplaced⟩, hfinish, -, -⟩ := scanFrom_ok (start_eq_along _) h
  intro p hp
  rcases List.mem_append.1 hp with hp | hp
  · rw [hplaced, List.map_map] at hp
    obtain ⟨⟨before, t⟩, hmem, rfl⟩ := List.mem_map.1 hp
    obtain ⟨c, post, hsplit, hspace⟩ := hts.split hmem
    exact ⟨before, c :: post, hsplit, Position.between_of_not_isBreak (isBreak_of_not_isSpace hspace), rfl⟩
  · rw [List.mem_singleton.1 hp, hfinish]
    exact ⟨text.toList, [], (List.append_nil _).symm, fun _ => by simp, rfl⟩

/-- **Places are exact.**  Every token of a text stands at the place behind the text in front of it, and the
end at the place behind the whole text; these places increase along the text.  What is wrong with a text,
be it found in a token or between tokens, stands at the place of a character or of the end. -/
theorem Engine.places_of_compile (text : String) :
    (∀ row, TokenRow.ofText text = .ok row →
      (∃ ts, Spelled [] text.toList ts ∧
        row.placed = ts.map fun (before, t) => ⟨t, Position.behind before⟩) ∧
      row.finish = Position.behind text.toList ∧ row.positions.Pairwise Position.Before) ∧
    ∀ (e : Engine) error, e.compile text = .error error →
      Position.InText text.toList error.position := by
  refine ⟨fun row h => ?_, fun e error h => ?_⟩
  · obtain ⟨hspelled, hfinish, -, hincrease⟩ := TokenRow.scanFrom_ok (TokenRow.start_eq_along _) h
    exact ⟨hspelled, hfinish, hincrease⟩
  · have hparse := Engine.compile_error.1 h
    unfold Expr.parse at hparse
    split at hparse
    · rename_i hscan
      cases hparse
      exact TokenRow.scanFrom_error (TokenRow.start_eq_along _) hscan
    · rename_i row hscan
      split at hparse
      · cases hparse
        exact TokenRow.positions_inText hscan _ (row.place_mem _)
      · cases hparse

/-- Two line breaks of two kinds in front of a token, and a third one within a string in front of a
fault. -/
theorem Engine.places_of_broken_lines :
    (∃ row, TokenRow.ofText "a\n  .b\r\n|c" = .ok row ∧
      row.positions = [⟨1, 1⟩, ⟨2, 3⟩, ⟨2, 4⟩, ⟨3, 1⟩, ⟨3, 2⟩, ⟨3, 3⟩] ∧
      row.positions.Pairwise Position.Before) ∧
    ∃ error, (Engine.standard .plain).compile "'x\ry'.\"\\z\"" = .error error ∧ error.position = ⟨2, 5⟩ ∧
      Position.InText "'x\ry'.\"\\z\"".toList error.position := by
  have hscan : ∃ row, TokenRow.ofText "a\n  .b\r\n|c" = .ok row ∧
      row.positions = [⟨1, 1⟩, ⟨2, 3⟩, ⟨2, 4⟩, ⟨3, 1⟩, ⟨3, 2⟩, ⟨3, 3⟩] := ⟨_, by cbv, rfl⟩
  have hfault : ∃ error, (Engine.standard .plain).compile "'x\ry'.\"\\z\"" = .error error ∧
      error.position = ⟨2, 5⟩ := ⟨_, by cbv, rfl⟩
  obtain ⟨row, hrow, hpositions⟩ := hscan
  obtain ⟨error, herror, hposition⟩ := hfault
  exact ⟨⟨row, hrow, hpositions, ((places_of_compile _).1 row hrow).2.2⟩,
    error, herror, hposition, (places_of_compile _).2 _ error herror⟩

end JsonQuery
