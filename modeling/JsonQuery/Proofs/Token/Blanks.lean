import JsonQuery.Proofs.Grammar.Text
import JsonQuery.Proofs.Token.Places

/-!
# Blanks between tokens

* `Token.scan_take` — a token is scanned from the characters that it takes, and ends in front of the next.
* `Widened` — a text with further blanks in front of its tokens, between them, or behind the last.
* `Widened.scans` — it has the same tokens.
* `Expr.parse_widened` — so it is read as the same expression, or refused for the same cause at the same
  token.
-/

namespace JsonQuery

/-! ## Tokens and what follows them -/

namespace Token

variable {c d : Char} {cs ds more : List Char} {t : Token} {n total taken : Nat}

theorem takeWhile_take (p : Char → Bool) (cs : List Char) :
    (cs.take (cs.takeWhile p).length).takeWhile p = cs.takeWhile p := by
  induction cs with
  | nil => rfl
  | cons c cs ih =>
    by_cases hc : p c = true
    · simp [hc, ih]
    · simp [hc]

theorem stop_of_takeWhile {p : Char → Bool} (h : (cs.drop (cs.takeWhile p).length).head? = some d) :
    p d = false := by
  induction cs with
  | nil => cases h
  | cons c cs ih =>
    by_cases hc : p c = true
    · exact ih (by simpa [List.takeWhile_cons, hc] using h)
    · simp only [List.takeWhile_cons, hc, Bool.false_eq_true, if_false, List.length_nil, List.drop_zero,
        List.head?_cons, Option.some.injEq] at h
      rwa [← h, ← Bool.not_eq_true]

/-- A quoted name is scanned from the characters that it takes. -/
theorem scanQuoted_take (h : scanQuoted taken cs = .ok (ds, total)) :
    ∃ n, total = taken + n ∧ scanQuoted taken (cs.take n) = .ok (ds, total) := by
  fun_induction scanQuoted taken cs generalizing ds total with
  | case1 => cases h
  | case2 taken cs =>
    cases h
    exact ⟨1, rfl, by simp [scanQuoted]⟩
  | case3 => cases h
  | case4 taken cs c m hread es total' hrest hquote ih =>
    cases h
    obtain ⟨body, behind, rfl, rfl, hreads⟩ := Text.Escape.read_local hread
    rw [List.drop_left] at hrest ih
    obtain ⟨n, rfl, hscan⟩ := ih hrest
    refine ⟨1 + body.length + n, by omega, ?_⟩
    rw [Nat.add_assoc, Nat.add_comm 1, List.take_succ_cons, List.take_append]
    rw [scanQuoted, if_neg hquote, if_pos rfl, List.take_of_length_le (by omega)]
    simp [hreads, hscan]
  | case5 => cases h
  | case6 taken c cs hquote hback es total' hrest ih =>
    cases h
    obtain ⟨n, rfl, hscan⟩ := ih hrest
    refine ⟨n + 1, by omega, ?_⟩
    rw [List.take_succ_cons, scanQuoted, if_neg hquote, if_neg hback, hscan]
  | case7 => cases h

theorem scanRaw_take (h : scanRaw cs = some (ds, n)) : scanRaw (cs.take n) = some (ds, n) := by
  fun_induction scanRaw cs generalizing ds n with
  | case1 => cases h
  | case2 cs =>
    cases h
    rfl
  | case3 cs ih =>
    obtain ⟨⟨es, m⟩, hes, heq⟩ := Option.map_eq_some_iff.1 h
    cases heq
    simp [scanRaw, ih hes]
  | case4 cs ih =>
    obtain ⟨⟨es, m⟩, hes, heq⟩ := Option.map_eq_some_iff.1 h
    cases heq
    simp [scanRaw, ih hes]
  | case5 c cs hquote hescape hback ih =>
    obtain ⟨⟨es, m⟩, hes, heq⟩ := Option.map_eq_some_iff.1 h
    cases heq
    have htake := ih hes
    rw [List.take_succ_cons]
    cases cs with
    | nil => cases hes
    | cons d cs =>
      cases m with
      | zero => cases htake
      | succ m => simp_all [scanRaw]

theorem scanLiteral_take (h : scanLiteral cs = some (ds, n)) : scanLiteral (cs.take n) = some (ds, n) := by
  fun_induction scanLiteral cs generalizing ds n with
  | case1 => cases h
  | case2 cs =>
    cases h
    rfl
  | case3 cs ih =>
    obtain ⟨⟨es, m⟩, hes, heq⟩ := Option.map_eq_some_iff.1 h
    cases heq
    simp [scanLiteral, ih hes]
  | case4 c cs htick hescape ih =>
    obtain ⟨⟨es, m⟩, hes, heq⟩ := Option.map_eq_some_iff.1 h
    cases heq
    have htake := ih hes
    rw [List.take_succ_cons]
    cases cs with
    | nil => cases hes
    | cons d cs =>
      cases m with
      | zero => cases htake
      | succ m => simp_all [scanLiteral]

theorem scanNumber_take (h : scanNumber c cs = .ok (t, n)) : scanNumber c (cs.take n) = .ok (t, n) ∧
    ∀ d, (cs.drop n).head? = some d → t.endsBefore d = true := by
  have hnumber : (∃ i, t = .number i) ∧ n = (cs.takeWhile Text.isDigit).length := by
    unfold scanNumber at h
    dsimp only at h
    split at h
    · cases h
    · split at h
      · cases h
        exact ⟨⟨_, rfl⟩, rfl⟩
      · cases h
  obtain ⟨⟨i, rfl⟩, rfl⟩ := hnumber
  refine ⟨?_, fun d hd => ?_⟩
  · unfold scanNumber at h ⊢
    rwa [takeWhile_take]
  · simp only [endsBefore, stop_of_takeWhile hd, Bool.not_false]

theorem scanName_take (h : scanName c cs = (t, n)) : scanName c (cs.take n) = (t, n) ∧
    ∀ d, (cs.drop n).head? = some d → t.endsBefore d = true := by
  cases h
  refine ⟨?_, fun d hd => ?_⟩
  · unfold scanName
    rw [takeWhile_take]
  · simp only [endsBefore, stop_of_takeWhile hd, Bool.not_false]

theorem scanPair_take {next : Char} {long short : Token} (hlong : ∀ d, long.endsBefore d = true)
    (hshort : ∀ d ≠ next, short.endsBefore d = true)
    (h : (Except.ok (scanPair next long short cs) : Scan Token) = .ok (t, n)) :
    (Except.ok (scanPair next long short (cs.take n)) : Scan Token) = .ok (t, n) ∧
      ∀ d, (cs.drop n).head? = some d → t.endsBefore d = true := by
  unfold scanPair at h
  split at h
  · rename_i hnext
    cases h
    cases cs with
    | nil => cases hnext
    | cons d cs => exact ⟨congrArg Except.ok (if_pos hnext), fun d _ => hlong d⟩
  · rename_i hnext
    cases h
    refine ⟨congrArg Except.ok (if_neg nofun), fun d hd => hshort d ?_⟩
    rintro rfl
    exact hnext hd

/-- An opening bracket, alone or with the character behind it. -/
theorem scanBracket_take (h : scan '[' cs = .ok (t, n)) : scan '[' (cs.take n) = .ok (t, n) ∧
    ∀ d, (cs.drop n).head? = some d → t.endsBefore d = true := by
  cases cs with
  | nil =>
    cases h
    exact ⟨rfl, nofun⟩
  | cons d cs =>
    simp only [scan, List.head?_cons] at h
    split at h
    · rename_i hd
      cases h
      cases hd
      exact ⟨rfl, fun _ _ => rfl⟩
    · rename_i hd
      cases h
      cases hd
      exact ⟨rfl, fun _ _ => rfl⟩
    · rename_i hclose hquestion
      cases h
      refine ⟨rfl, ?_⟩
      rintro e ⟨⟩
      have hclose : d ≠ ']' := fun heq => hclose (congrArg some heq)
      have hquestion : d ≠ '?' := fun heq => hquestion (congrArg some heq)
      simp [endsBefore, hclose, hquestion]

/-- An equals sign, which is no token without the character behind it. -/
theorem scanEquals_take (h : scan '=' cs = .ok (t, n)) : scan '=' (cs.take n) = .ok (t, n) ∧
    ∀ d, (cs.drop n).head? = some d → t.endsBefore d = true := by
  cases cs with
  | nil => cases h
  | cons d cs =>
    simp only [scan, List.head?_cons] at h
    split at h
    · rename_i hd
      cases h
      cases hd
      exact ⟨rfl, fun _ _ => rfl⟩
    · rename_i hd
      cases h
      cases hd
      exact ⟨rfl, fun _ _ => rfl⟩
    · cases h

/-- A token is scanned from the characters that it takes, and ends in front of the one that follows. -/
theorem scan_take (h : scan c cs = .ok (t, n)) : scan c (cs.take n) = .ok (t, n) ∧
    ∀ d, (cs.drop n).head? = some d → t.endsBefore d = true := by
  have htoken := h
  unfold scan at h
  -- the cases are those of the first character; the ten of a single character come last
  split at h
  case h_11 => exact scanBracket_take htoken
  case h_12 => exact scanPair_take (fun _ => rfl) (by simp [endsBefore]) h
  case h_13 => exact scanPair_take (fun _ => rfl) (by simp [endsBefore]) h
  case h_14 => exact scanPair_take (fun _ => rfl) (by simp [endsBefore]) h
  case h_15 => exact scanPair_take (fun _ => rfl) (by simp [endsBefore]) h
  case h_16 => exact scanPair_take (fun _ => rfl) (by simp [endsBefore]) h
  case h_17 => exact scanEquals_take htoken
  case h_18 =>
    split at h
    · rename_i hquoted
      cases h
      obtain ⟨n, rfl, hscan⟩ := scanQuoted_take hquoted
      rw [Nat.add_sub_cancel_left]
      exact ⟨by simp only [scan, hscan, Nat.add_sub_cancel_left], fun _ _ => rfl⟩
    · cases h
  case h_19 =>
    split at h
    · rename_i hraw
      cases h
      exact ⟨by simp only [scan, scanRaw_take hraw], fun _ _ => rfl⟩
    · cases h
  case h_20 =>
    split at h
    · cases h
    · rename_i hliteral
      split at h
      · rename_i hread
        cases h
        exact ⟨by simp only [scan, scanLiteral_take hliteral, hread], fun _ _ => rfl⟩
      · cases h
  case h_21 =>
    have hdefault : scan c (cs.take n) =
        if c = '-' ∨ Text.isDigit c then scanNumber c (cs.take n)
        else if isNameStart c then .ok (scanName c (cs.take n))
        else refuse (.unexpectedCharacter c) := by
      unfold scan
      split <;> first | rfl | contradiction
    rw [hdefault]
    split at h
    · rename_i hnumber
      rw [if_pos hnumber]
      exact scanNumber_take h
    · rename_i hnumber
      rw [if_neg hnumber]
      split at h
      · rename_i hstart
        rw [if_pos hstart]
        obtain ⟨hscan, hends⟩ := scanName_take (Except.ok.inj h)
        exact ⟨congrArg Except.ok hscan, hends⟩
      · cases h
  all_goals
    cases h
    exact ⟨rfl, fun _ _ => rfl⟩

end Token

/-! ## Wider texts -/

/-- All characters are blanks. -/
def Blank (w : List Char) : Prop := ∀ c ∈ w, Json.isSpace c = true

/-- A text that is scanned, and the same text with further blanks in front of its tokens, among the blanks
between them, or at its end. -/
inductive Widened : List Char → List Char → Prop
  | done {w} : Blank w → Widened [] w
  | blank {c cs w cs'} : Json.isSpace c = true → Blank w → Widened cs cs' →
      Widened (c :: cs) (w ++ c :: cs')
  | token {c cs t n w cs'} : Json.isSpace c = false → Token.scan c cs = .ok (t, n) → Blank w →
      Widened (cs.drop n) cs' → Widened (c :: cs) (w ++ c :: (cs.take n ++ cs'))

variable {c d : Char} {cs cs' w : List Char} {t : Token} {ts : List Token} {n : Nat}

theorem Token.endsBefore_blank (h : Json.isSpace d = true) (t : Token) : t.endsBefore d = true := by
  refine endsBefore_of_breaks ?_ t
  simp only [Json.isSpace, Bool.or_eq_true, beq_iff_eq] at h
  rcases h with ((rfl | rfl) | rfl) | rfl <;> decide

theorem Blank.head (hw : Blank w) {more : List Char} (hd : (w ++ more).head? = some d) :
    Json.isSpace d = true ∨ more.head? = some d := by
  cases w with
  | nil => exact .inr hd
  | cons c w =>
    cases hd
    exact .inl (hw _ List.mem_cons_self)

/-- A wider text starts with a blank, or as the text does. -/
theorem Widened.head (h : Widened cs cs') (hd : cs'.head? = some d) :
    Json.isSpace d = true ∨ cs.head? = some d := by
  cases h with
  | done hw =>
    rw [← List.append_nil cs'] at hd
    exact hw.head hd
  | blank _ hw _ =>
    have hnext := hw.head hd
    exact hnext
  | token _ _ hw _ =>
    have hnext := hw.head hd
    exact hnext

/-- A token is the same one in a wider text. -/
theorem Widened.scan (hscan : Token.scan c cs = .ok (t, n)) (h : Widened (cs.drop n) cs') :
    Token.scan c (cs.take n ++ cs') = .ok (t, n) := by
  obtain ⟨htake, hends⟩ := Token.scan_take hscan
  cases cs' with
  | nil => rwa [List.append_nil]
  | cons d more =>
    have hend : t.endsBefore d = true := by
      rcases h.head rfl with hspace | hnext
      · exact Token.endsBefore_blank hspace t
      · exact hends d hnext
    exact (Token.scan_append more hend htake).1

/-- A wider text has the same tokens. -/
theorem Widened.scans (h : Widened cs cs') (hscans : Scans cs ts) : Scans cs' ts := by
  induction h generalizing ts with
  | @done w hw =>
    rw [← List.append_nil w]
    exact .blanks hw hscans
  | blank hspace hw _ ih =>
    cases hscans with
    | blank _ hscans => exact .blanks hw (.blank hspace (ih hscans))
    | token hother => exact absurd (hspace.symm.trans hother) (by decide)
  | token hother hscan hw hwide ih =>
    cases hscans with
    | blank hspace _ => exact absurd (hspace.symm.trans hother) (by decide)
    | token _ hscan' hscans =>
      rw [hscan] at hscan'
      cases hscan'
      refine .blanks hw (.token hother (hwide.scan hscan) ?_)
      have hle := Token.le_length_of_scan hscan
      rw [List.drop_left' (List.length_take_of_le hle)]
      exact ih hscans

/-! ## Faults in wider texts -/

theorem TokenRow.length_tokens (row : TokenRow) : row.tokens.length = row.placed.length :=
  List.length_map _

/-- The place from which a number of tokens is left is that of the token with this number from the end. -/
theorem TokenRow.positions_place (row : TokenRow) (remaining : Nat) :
    row.positions[row.tokens.length - remaining]? = some (row.place remaining) := by
  rw [length_tokens]
  unfold positions place
  split
  · rename_i u us hdrop
    have hget : row.placed[row.placed.length - remaining]? = some u := by
      rw [← List.head?_drop, hdrop]
      rfl
    have hlt := (List.getElem?_eq_some_iff.1 hget).1
    rw [List.getElem?_append_left (by rwa [List.length_map]), List.getElem?_map, hget]
    rfl
  · rename_i hdrop
    have hle : row.placed.length ≤ row.placed.length - remaining := List.drop_eq_nil_iff.1 hdrop
    rw [List.getElem?_append_right (by rwa [List.length_map]), List.length_map]
    simp [Nat.le_antisymm (Nat.sub_le _ _) hle]

/-- **Blanks between tokens are free.**  With any further blanks in front of its tokens, between them or
behind the last, a text has the same tokens.  It is read as the same expression, or refused for the same
cause at the same token, wherever that stands now. -/
theorem Expr.parse_widened {text text' : String} {row : TokenRow} (hrow : TokenRow.ofText text = .ok row)
    (h : Widened text.toList text'.toList) :
    ∃ row', TokenRow.ofText text' = .ok row' ∧ row'.tokens = row.tokens ∧ ∀ arity? limit,
      (∃ e, parse arity? limit text = .ok e ∧ parse arity? limit text' = .ok e) ∨
      ∃ cause, ∃ i : Nat, ∃ p p', row.positions[i]? = some p ∧ row'.positions[i]? = some p' ∧
        parse arity? limit text = .error ⟨cause, p⟩ ∧ parse arity? limit text' = .error ⟨cause, p'⟩ := by
  have hscans : Scans text.toList row.tokens := Scans.ofText.1 ⟨row, hrow, rfl⟩
  obtain ⟨row', hrow', htokens⟩ := Scans.ofText.2 (h.scans hscans)
  refine ⟨row', hrow', htokens, fun arity? limit => ?_⟩
  unfold parse
  simp only [hrow, hrow', htokens]
  cases Grammar.whole arity? limit row.tokens with
  | ok e => exact .inl ⟨e, rfl, rfl⟩
  | error fault =>
    have hplace := row.positions_place fault.rest.length
    have hplace' := row'.positions_place fault.rest.length
    rw [htokens] at hplace'
    exact .inr ⟨fault.cause, _, _, _, hplace, hplace', rfl, rfl⟩

/-- A filter that is not closed, with blanks of all four kinds around its tokens. -/
theorem Expr.parse_widened_unclosed :
    (∃ row, TokenRow.ofText "a||[?b" = .ok row) ∧
    Widened "a||[?b".toList "a ||\r\n[?\tb\n".toList ∧
    ∃ cause, parse (fun _ => none) 9 "a||[?b" = .error ⟨cause, ⟨1, 7⟩⟩ ∧
      parse (fun _ => none) 9 "a ||\r\n[?\tb\n" = .error ⟨cause, ⟨3, 1⟩⟩ := by
  have hnone : Blank [] := nofun
  have hwide : Widened "a||[?b".toList "a ||\r\n[?\tb\n".toList :=
    .token (w := []) (n := 0) rfl rfl hnone <|
    .token (w := [' ']) (n := 1) rfl rfl (by simp [Blank, Json.isSpace]) <|
    .token (w := ['\r', '\n']) (n := 1) rfl rfl (by simp [Blank, Json.isSpace]) <|
    .token (w := ['\t']) (n := 0) rfl rfl (by simp [Blank, Json.isSpace]) <|
    .done (w := ['\n']) (by simp [Blank, Json.isSpace])
  have hscan : ∃ row, TokenRow.ofText "a||[?b" = .ok row ∧
      row.positions = [⟨1, 1⟩, ⟨1, 2⟩, ⟨1, 4⟩, ⟨1, 6⟩, ⟨1, 7⟩] := ⟨_, by cbv, rfl⟩
  have hscan' : ∃ row, TokenRow.ofText "a ||\r\n[?\tb\n" = .ok row ∧
      row.positions = [⟨1, 1⟩, ⟨1, 3⟩, ⟨2, 1⟩, ⟨2, 4⟩, ⟨3, 1⟩] := ⟨_, by cbv, rfl⟩
  have hparse : ∃ cause, parse (fun _ => none) 9 "a||[?b" = .error ⟨cause, ⟨1, 7⟩⟩ := ⟨_, by cbv⟩
  obtain ⟨row, hrow, hplaces⟩ := hscan
  obtain ⟨row', hrow', hplaces'⟩ := hscan'
  obtain ⟨cause, hcause⟩ := hparse
  refine ⟨⟨row, hrow⟩, hwide, cause, hcause, ?_⟩
  obtain ⟨_, hwider, -, hparse⟩ := parse_widened hrow hwide
  rw [hrow'] at hwider
  cases hwider
  rcases hparse (fun _ => none) 9 with ⟨e, hok, -⟩ | ⟨_, i, p, p', hp, hp', hfault, hfault'⟩
  · rw [hcause] at hok
    cases hok
  · rw [hcause] at hfault
    cases hfault
    rw [hplaces] at hp
    rw [hplaces'] at hp'
    -- the only one of the places that the fault can stand at is the last
    rcases i with _ | _ | _ | _ | _ | i <;> cases hp
    cases hp'
    exact hfault'

end JsonQuery
