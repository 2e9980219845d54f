import JsonQuery.Token.Scanner

/-!
# Scanning without places

* `Scans` — the tokens of a list of characters, without their places.
* `Scans.ofText` — a text is scanned exactly by these rules.
* `Token.endsBefore` — whether a token ends in front of a character; `Token.scan_append` — then it does not
  look past it.
* `Text.Escape.read_local` — an escape is read from the characters that it takes.
* `Scans.append_of_ends`, `Scans.append` — so a text can be scanned in two parts there; `Scans.group` is
  the case of a text in parentheses.
-/

namespace JsonQuery

/-- The tokens of a list of characters, without their places. -/
inductive Scans : List Char → List Token → Prop
  | done : Scans [] []
  | blank {c cs ts} : Json.isSpace c = true → Scans cs ts → Scans (c :: cs) ts
  | token {c cs t n ts} : Json.isSpace c = false → Token.scan c cs = .ok (t, n) →
      Scans (cs.drop n) ts → Scans (c :: cs) (t :: ts)

/-! ## Places do not matter -/

theorem Scans.scanFrom {p : Position} {cs : List Char} {ts : List Token} :
    (∃ row, TokenRow.scanFrom p cs = .ok row ∧ row.tokens = ts) ↔ Scans cs ts := by
  constructor
  · rintro ⟨row, h, rfl⟩
    fun_induction TokenRow.scanFrom p cs generalizing row with
    | case1 p =>
      cases h
      exact .done
    | case2 p c cs hspace ih => exact .blank hspace (ih row h)
    | case3 => cases h
    | case4 p c cs hspace t n hscan row' hrest ih =>
      cases h
      exact .token (by simpa using hspace) hscan (ih row' hrest)
    | case5 => cases h
  · intro h
    induction h generalizing p with
    | done => exact ⟨⟨[], p⟩, by rw [TokenRow.scanFrom], rfl⟩
    | blank hspace _ ih =>
      rw [TokenRow.scanFrom, if_pos hspace]
      exact ih
    | @token c cs t n ts hspace hscan _ ih =>
      obtain ⟨row, hrow, rfl⟩ := ih (p := p.along (n + 1) (c :: cs))
      refine ⟨{ row with placed := ⟨_, p⟩ :: row.placed }, ?_, rfl⟩
      rw [TokenRow.scanFrom, if_neg (by simp [hspace])]
      simp only [hscan, hrow]

/-- A text is scanned exactly by these rules. -/
theorem Scans.ofText {text : String} {ts : List Token} :
    (∃ row, TokenRow.ofText text = .ok row ∧ row.tokens = ts) ↔ Scans text.toList ts :=
  Scans.scanFrom

/-- The tokens of a list of characters are unique. -/
theorem Scans.functional {cs : List Char} {ts us : List Token} (h : Scans cs ts) (h' : Scans cs us) :
    ts = us := by
  obtain ⟨row, hrow, rfl⟩ := (Scans.scanFrom (p := .start)).2 h
  obtain ⟨row', hrow', rfl⟩ := (Scans.scanFrom (p := .start)).2 h'
  rw [hrow] at hrow'
  cases hrow'
  rfl

/-! ## Tokens end where they end -/

/-- A character that goes on with no name, number or sign. -/
def Text.breaks (c : Char) : Bool :=
  !Token.isNamePart c && c != ']' && c != '?' && c != '|' && c != '&' && c != '=' && c != '~'

/-- Whether a token ends in front of a character, which would otherwise make it longer or another one. -/
def Token.endsBefore : Token → Char → Bool
  | .identifier _, d => !Token.isNamePart d
  | .number _, d => !Text.isDigit d
  | .openBracket, d => d != ']' && d != '?'
  | .pipe, d => d != '|'
  | .ampersand, d => d != '&'
  | .not, d | .lt, d | .gt, d => d != '='
  | _, _ => true

variable {c d : Char} {cs more : List Char} {t : Token}

/-- All tokens end in front of a breaking character. -/
theorem Token.endsBefore_of_breaks (hd : Text.breaks d = true) (t : Token) : t.endsBefore d = true := by
  simp only [Text.breaks, Token.isNamePart, Bool.and_eq_true, Bool.not_eq_true',
    Bool.or_eq_false_iff] at hd
  obtain ⟨⟨⟨⟨⟨⟨⟨hstart, hdigit⟩, hbracket⟩, hquestion⟩, hbar⟩, hand⟩, heq⟩, -⟩ := hd
  cases t <;> simp only [Token.endsBefore, Token.isNamePart, hstart, hdigit, hbracket, hquestion, hbar,
    hand, heq, Bool.or_self, Bool.not_false, Bool.and_self]

theorem takeWhile_append_of_stop {p : Char → Bool} (hd : p d = false) (cs more : List Char) :
    (cs ++ d :: more).takeWhile p = cs.takeWhile p := by
  induction cs with
  | nil => simp [hd]
  | cons c cs ih => simp [List.takeWhile_cons, ih]

theorem Text.Escape.unit?_local {u : Nat} (h : Text.Escape.unit? cs = some u) : ∃ taken behind,
    cs = taken ++ behind ∧ taken.length = 4 ∧ ∀ more, Text.Escape.unit? (taken ++ more) = some u := by
  unfold Text.Escape.unit? at h
  split at h
  · rename_i a b c d behind
    exact ⟨[a, b, c, d], behind, rfl, rfl, fun _ => h⟩
  · cases h

theorem Text.Escape.readLow_local {high n : Nat} (h : Text.Escape.readLow high cs = .ok (d, n)) :
    ∃ taken behind, cs = taken ++ behind ∧ taken.length + 5 = n ∧
      ∀ more, Text.Escape.readLow high (taken ++ more) = .ok (d, n) := by
  unfold Text.Escape.readLow at h
  split at h
  · split at h
    · cases h
    · rename_i low hlow
      obtain ⟨taken, behind, rfl, hlength, hreads⟩ := Text.Escape.unit?_local hlow
      split at h
      · rename_i hsurrogate
        simp only [Except.ok.injEq, Prod.mk.injEq] at h
        obtain ⟨rfl, rfl⟩ := h
        refine ⟨'\\' :: 'u' :: taken, behind, rfl, by simp [hlength], fun more => ?_⟩
        rw [List.cons_append, List.cons_append]
        unfold Text.Escape.readLow
        simp only [hreads, hsurrogate, if_true]
      · cases h
  · cases h

/-- An escape is read from the characters that it takes. -/
theorem Text.Escape.read_local {n : Nat} (h : Text.Escape.read cs = .ok (d, n)) : ∃ taken behind,
    cs = taken ++ behind ∧ taken.length = n ∧ ∀ more, Text.Escape.read (taken ++ more) = .ok (d, n) := by
  rcases cs with _ | ⟨c, cs⟩
  · cases h
  · rw [Text.Escape.read] at h
    by_cases hc : c = 'u'
    · rw [if_pos hc] at h
      split at h
      · cases h
      · rename_i u hunit
        obtain ⟨taken, behind, rfl, hlength, hreads⟩ := Text.Escape.unit?_local hunit
        split at h
        · rename_i hhigh
          rw [List.drop_left' hlength] at h
          obtain ⟨low, behind, rfl, hlow, hreadsLow⟩ := Text.Escape.readLow_local h
          refine ⟨c :: (taken ++ low), behind, by simp, by simp; omega, fun more => ?_⟩
          rw [List.cons_append, Text.Escape.read, if_pos hc, List.append_assoc]
          simp only [hreads, hhigh, if_true, List.drop_left' hlength, hreadsLow]
        · rename_i hhigh
          split at h
          · cases h
          · rename_i hlow
            cases h
            refine ⟨c :: taken, behind, rfl, by simp [hlength], fun more => ?_⟩
            rw [List.cons_append, Text.Escape.read, if_pos hc]
            simp only [hreads, hhigh, hlow, Bool.false_eq_true, if_false]
    · rw [if_neg hc] at h
      split at h
      · rename_i hshort
        cases h
        refine ⟨[c], cs, rfl, rfl, fun more => ?_⟩
        rw [List.singleton_append, Text.Escape.read, if_neg hc]
        simp only [hshort]
      · cases h

theorem Text.Escape.read_append {n : Nat} (h : Text.Escape.read cs = .ok (c, n)) (s : List Char) :
    Text.Escape.read (cs ++ s) = .ok (c, n) ∧ n ≤ cs.length := by
  obtain ⟨taken, behind, rfl, rfl, hreads⟩ := Text.Escape.read_local h
  rw [List.append_assoc]
  exact ⟨hreads (behind ++ s), by simp⟩

theorem Token.scanQuoted_append {taken total : Nat} {ds : List Char}
    (h : Token.scanQuoted taken cs = .ok (ds, total)) (s : List Char) :
    Token.scanQuoted taken (cs ++ s) = .ok (ds, total) ∧ total ≤ taken + cs.length := by
  fun_induction Token.scanQuoted taken cs generalizing ds total with
  | case1 => cases h
  | case2 taken cs =>
    cases h
    refine ⟨by simp [Token.scanQuoted], by simp⟩
  | case3 => cases h
  | case4 taken cs c n hread es total' hrest hquote ih =>
    cases h
    obtain ⟨hescape, hle⟩ := Text.Escape.read_append hread s
    obtain ⟨hscan, hlen⟩ := ih hrest
    rw [List.length_drop] at hlen
    refine ⟨?_, by simp only [List.length_cons]; omega⟩
    rw [List.cons_append, Token.scanQuoted, if_neg hquote, if_pos rfl]
    simp only [hescape, List.drop_append_of_le_length hle, hscan]
  | case5 => cases h
  | case6 taken c cs hquote hback es total' hrest ih =>
    cases h
    obtain ⟨hscan, hlen⟩ := ih hrest
    refine ⟨?_, by simp only [List.length_cons]; omega⟩
    rw [List.cons_append, Token.scanQuoted, if_neg hquote, if_neg hback]
    simp only [hscan]
  | case7 => cases h

theorem Token.scanRaw_append {n : Nat} {ds : List Char} (h : Token.scanRaw cs = some (ds, n))
    (s : List Char) : Token.scanRaw (cs ++ s) = some (ds, n) ∧ n ≤ cs.length := by
  fun_induction Token.scanRaw cs generalizing ds n with
  | case1 => cases h
  | case2 cs =>
    cases h
    exact ⟨rfl, by simp⟩
  | case3 cs ih =>
    obtain ⟨⟨es, m⟩, hes, heq⟩ := Option.map_eq_some_iff.1 h
    cases heq
    obtain ⟨hread, hle⟩ := ih hes
    exact ⟨by simp [Token.scanRaw, hread], by simp; omega⟩
  | case4 cs ih =>
    obtain ⟨⟨es, m⟩, hes, heq⟩ := Option.map_eq_some_iff.1 h
    cases heq
    obtain ⟨hread, hle⟩ := ih hes
    exact ⟨by simp [Token.scanRaw, hread], by simp; omega⟩
  | case5 c cs hquote hescape hback ih =>
    obtain ⟨⟨es, m⟩, hes, heq⟩ := Option.map_eq_some_iff.1 h
    cases heq
    obtain ⟨hread, hle⟩ := ih hes
    refine ⟨?_, by simp; omega⟩
    cases cs with
    | nil => cases hes
    | cons d cs => simp_all [Token.scanRaw]

theorem Token.scanLiteral_append {n : Nat} {ds : List Char} (h : Token.scanLiteral cs = some (ds, n))
    (s : List Char) : Token.scanLiteral (cs ++ s) = some (ds, n) ∧ n ≤ cs.length := by
  fun_induction Token.scanLiteral cs generalizing ds n with
  | case1 => cases h
  | case2 cs =>
    cases h
    exact ⟨rfl, by simp⟩
  | case3 cs ih =>
    obtain ⟨⟨es, m⟩, hes, heq⟩ := Option.map_eq_some_iff.1 h
    cases heq
    obtain ⟨hread, hle⟩ := ih hes
    exact ⟨by simp [Token.scanLiteral, hread], by simp; omega⟩
  | case4 c cs htick hescape ih =>
    obtain ⟨⟨es, m⟩, hes, heq⟩ := Option.map_eq_some_iff.1 h
    cases heq
    obtain ⟨hread, hle⟩ := ih hes
    refine ⟨?_, by simp; omega⟩
    cases cs with
    | nil => cases hes
    | cons d cs => simp_all [Token.scanLiteral]

theorem Token.scanNumber_append {n : Nat} (ht : t.endsBefore d = true)
    (h : Token.scanNumber c cs = .ok (t, n)) :
    Token.scanNumber c (cs ++ d :: more) = .ok (t, n) ∧ n ≤ cs.length := by
  have hle : (cs.takeWhile Text.isDigit).length ≤ cs.length := (List.takeWhile_sublist _).length_le
  have hnumber : (∃ i, t = .number i) ∧ n = (cs.takeWhile Text.isDigit).length := by
    unfold Token.scanNumber at h
    simp only at h
    split at h
    · cases h
    · split at h
      · cases h
        exact ⟨⟨_, rfl⟩, rfl⟩
      · cases h
  obtain ⟨⟨i, rfl⟩, rfl⟩ := hnumber
  have hdigit : Text.isDigit d = false := by simpa [Token.endsBefore] using ht
  refine ⟨?_, hle⟩
  unfold Token.scanNumber at h ⊢
  simp only [takeWhile_append_of_stop hdigit]
  exact h

theorem Token.scanPair_append {n : Nat} {next : Char} {long short : Token}
    (hshort : short.endsBefore d = true → d ≠ next) (ht : t.endsBefore d = true)
    (h : (Except.ok (Token.scanPair next long short cs) : Token.Scan Token) = .ok (t, n)) :
    (Except.ok (Token.scanPair next long short (cs ++ d :: more)) : Token.Scan Token) = .ok (t, n) ∧
      n ≤ cs.length := by
  cases cs with
  | nil =>
    cases h
    have hnext : d ≠ next := hshort ht
    exact ⟨by simp [Token.scanPair, hnext], Nat.le_refl _⟩
  | cons c cs =>
    refine ⟨h, ?_⟩
    unfold Token.scanPair at h
    split at h <;> cases h <;> simp

/-- A token that ends in front of a character does not look past it. -/
theorem Token.scan_append {n : Nat} (more : List Char) (ht : t.endsBefore d = true)
    (h : Token.scan c cs = .ok (t, n)) :
    Token.scan c (cs ++ d :: more) = .ok (t, n) ∧ n ≤ cs.length := by
  unfold Token.scan at h
  split at h
  case h_11 =>
    cases cs with
    | nil =>
      cases h
      obtain ⟨hbracket, hquestion⟩ : d ≠ ']' ∧ d ≠ '?' := by simpa [Token.endsBefore] using ht
      exact ⟨by simp [Token.scan, hbracket, hquestion], Nat.zero_le _⟩
    | cons c cs =>
      refine ⟨h, ?_⟩
      split at h <;> cases h <;> simp
  case h_12 => exact Token.scanPair_append (by simp [Token.endsBefore]) ht h
  case h_13 => exact Token.scanPair_append (by simp [Token.endsBefore]) ht h
  case h_14 => exact Token.scanPair_append (by simp [Token.endsBefore]) ht h
  case h_15 => exact Token.scanPair_append (by simp [Token.endsBefore]) ht h
  case h_16 => exact Token.scanPair_append (by simp [Token.endsBefore]) ht h
  case h_17 =>
    cases cs with
    | nil => cases h
    | cons c cs =>
      refine ⟨h, ?_⟩
      split at h <;> cases h <;> simp
  case h_18 =>
    split at h
    · rename_i hscan
      cases h
      obtain ⟨hscan, hle⟩ := Token.scanQuoted_append hscan (d :: more)
      exact ⟨by simp only [Token.scan, hscan], by omega⟩
    · cases h
  case h_19 =>
    split at h
    · rename_i hscan
      cases h
      obtain ⟨hscan, hle⟩ := Token.scanRaw_append hscan (d :: more)
      exact ⟨by simp only [Token.scan, hscan], hle⟩
    · cases h
  case h_20 =>
    split at h
    · cases h
    · rename_i hscan
      split at h
      · rename_i hread
        cases h
        obtain ⟨hscan, hle⟩ := Token.scanLiteral_append hscan (d :: more)
        exact ⟨by simp only [Token.scan, hscan, hread], hle⟩
      · cases h
  case h_21 =>
    have hdefault : Token.scan c (cs ++ d :: more) =
        if c = '-' ∨ Text.isDigit c then Token.scanNumber c (cs ++ d :: more)
        else if Token.isNameStart c then .ok (Token.scanName c (cs ++ d :: more))
        else Token.refuse (.unexpectedCharacter c) := by
      unfold Token.scan
      split <;> first | rfl | contradiction
    rw [hdefault]
    split at h
    · rename_i hnumber
      rw [if_pos hnumber]
      exact Token.scanNumber_append ht h
    · rename_i hnumber
      rw [if_neg hnumber]
      split at h
      · rename_i hstart
        rw [if_pos hstart]
        unfold Token.scanName at h ⊢
        cases h
        have hname : Token.isNamePart d = false := by simpa [Token.endsBefore] using ht
        rw [takeWhile_append_of_stop hname]
        exact ⟨rfl, (List.takeWhile_sublist _).length_le⟩
      · cases h
  all_goals
    cases h
    exact ⟨by simp [Token.scan], Nat.zero_le _⟩

/-! ## Texts in two parts -/

/-- A text is scanned in two parts if the tokens of the first end in front of the second. -/
theorem Scans.append_of_ends {pre post : List Token} (h : Scans cs pre)
    (hends : ∀ t ∈ pre, t.endsBefore d = true) (hmore : Scans (d :: more) post) :
    Scans (cs ++ d :: more) (pre ++ post) := by
  induction h with
  | done => exact hmore
  | blank hspace _ ih => exact .blank hspace (ih hends)
  | token hspace hscan _ ih =>
    obtain ⟨hscan, hle⟩ := Token.scan_append more (hends _ List.mem_cons_self) hscan
    have hrest := ih fun t ht => hends t (List.mem_cons_of_mem _ ht)
    rw [← List.drop_append_of_le_length hle] at hrest
    exact .token hspace hscan hrest

/-- A text is scanned in two parts if the second starts with a breaking character. -/
theorem Scans.append {pre post : List Token} (h : Scans cs pre) (hd : Text.breaks d = true)
    (hmore : Scans (d :: more) post) : Scans (cs ++ d :: more) (pre ++ post) :=
  h.append_of_ends (fun t _ => Token.endsBefore_of_breaks hd t) hmore

/-- Blanks in front of a text yield no tokens. -/
theorem Scans.blanks {post : List Token} (h : ∀ c ∈ cs, Json.isSpace c = true) (hmore : Scans more post) :
    Scans (cs ++ more) post := by
  induction cs with
  | nil => exact hmore
  | cons c cs ih =>
    exact .blank (h c List.mem_cons_self) (ih fun d hd => h d (List.mem_cons_of_mem c hd))

/-- A text in parentheses, in front of anything. -/
theorem Scans.group {ts post : List Token} (h : Scans cs ts) (hmore : Scans more post) :
    Scans ('(' :: (cs ++ ')' :: more)) (.openParen :: (ts ++ .closeParen :: post)) :=
  .token rfl rfl (h.append rfl (.token rfl rfl hmore))

end JsonQuery
