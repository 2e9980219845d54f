import JsonQuery.Json.Reader
import JsonQuery.Proofs.Text.Blank
import JsonQuery.Proofs.Token.Scanning

/-!
# What the JSON reader looks at

A value at the start of a text is read from some characters, whatever stands behind them, as long as that
is nothing or starts in the same way.  So the blanks around a JSON text do not matter.

* `Json.Follows`, `Json.Ends` — what may stand behind a value, and how the characters of a value end.
* `Json.Local` — readers that take some characters and look no further than at the first one behind them;
  `Json.value?_local` — the reader of values is one.
* `Json.exists_value` — a JSON text is a value between blanks; `Json.read?_trim` — those do not matter.
-/

namespace JsonQuery.Json

variable {α : Type} {c d : Char} {cs ds pre rest rest' : List Char} {r : List Char → Option (α × List Char)}

/-! ## Definitions -/

/-- Whether a value may end with a character, which is then neither blank nor a backslash. -/
def isEnd (c : Char) : Bool := !Text.isBlank c && c != '\\'

/-- The last of these characters, if there are any, is one with which a value may end. -/
def Ends (cs : List Char) : Prop := ∀ c ∈ cs.getLast?, isEnd c = true

/-- There is nothing in `rest'`, or it starts as `rest` does. -/
def Follows (rest rest' : List Char) : Prop := ∀ c ∈ rest'.head?, rest.head? = some c

/-- These characters are read as `a` in front of whatever follows as `rest` does. -/
structure Takes (r : List Char → Option (α × List Char)) (pre : List Char) (a : α) (rest : List Char) :
    Prop where
  ends : Ends pre
  reads : ∀ rest', Follows rest rest' → r (pre ++ rest') = some (a, rest')

/-- A reader takes some characters and looks no further than at the first one behind them. -/
def Local (r : List Char → Option (α × List Char)) : Prop :=
  ∀ ⦃cs a rest⦄, r cs = some (a, rest) → ∃ pre, pre ≠ [] ∧ cs = pre ++ rest ∧ Takes r pre a rest

/-! ## Ends of values and what follows them -/

theorem Ends.nil : Ends [] := nofun

theorem Ends.append (h : Ends cs) (h' : Ends ds) : Ends (cs ++ ds) := by
  intro c hc
  rw [List.getLast?_append] at hc
  rcases Option.or_eq_some_iff.1 hc with hc | ⟨-, hc⟩
  · exact h' c hc
  · exact h c hc

theorem Ends.behind (front : List Char) (hne : cs ≠ []) (h : Ends cs) : Ends (front ++ cs) := by
  intro c hc
  rw [List.getLast?_append_of_ne_nil front hne] at hc
  exact h c hc

theorem Ends.snoc (front : List Char) (h : isEnd c = true) : Ends (front ++ [c]) := by
  intro d hd
  rw [List.getLast?_concat] at hd
  cases hd
  exact h

theorem isEnd_of_isDigit (h : Text.isDigit c = true) : isEnd c = true := by
  have hle : 48 ≤ c.toNat ∧ c.toNat ≤ 57 := by
    simpa [Text.isDigit, Char.le_def, UInt32.le_iff_toNat_le] using h
  have hback : c ≠ '\\' := by
    rintro rfl
    exact absurd hle (by decide)
  simp only [isEnd, Text.isBlank, Bool.and_eq_true, Bool.not_eq_true', Bool.or_eq_false_iff,
    Bool.and_eq_false_iff, decide_eq_false_iff_not, beq_eq_false_iff_ne, bne_iff_ne]
  exact ⟨by omega, hback⟩

theorem Ends.of_digits (h : ∀ c ∈ cs, Text.isDigit c = true) : Ends cs :=
  fun c hc => isEnd_of_isDigit (h c (List.mem_of_getLast? hc))

theorem Follows.nil (h : Follows [] rest) : rest = [] := by
  cases rest with
  | nil => rfl
  | cons c rest => exact nomatch h c rfl

theorem Follows.cons (pre : List Char) (c : Char) (rest rest' : List Char) :
    Follows (pre ++ c :: rest) (pre ++ c :: rest') := by
  cases pre <;> exact fun _ h => h

/-- Behind the same characters the condition is the same. -/
theorem Follows.append (h : Follows rest rest') (pre : List Char) : Follows (pre ++ rest) (pre ++ rest') := by
  cases pre with
  | nil => exact h
  | cons c cs => exact fun _ h => h

/-! ## Blanks -/

theorem isBlank_of_isSpace (h : isSpace c = true) : Text.isBlank c = true := by
  simp only [isSpace, Bool.or_eq_true, beq_iff_eq] at h
  rcases h with ((rfl | rfl) | rfl) | rfl <;> rfl

/-- The blanks in front of a text. -/
theorem exists_blanks (cs : List Char) :
    ∃ blanks, cs = blanks ++ skipSpace cs ∧ ∀ c ∈ blanks, isSpace c = true :=
  ⟨cs.takeWhile isSpace, List.takeWhile_append_dropWhile.symm, fun _ => List.mem_takeWhile_imp⟩

theorem skipSpace_append (h : ∀ c ∈ cs, isSpace c = true) (ds : List Char) :
    skipSpace (cs ++ ds) = skipSpace ds :=
  List.dropWhile_append_of_pos h

theorem skipSpace_cons (h : isSpace c = false) : skipSpace (c :: cs) = c :: cs := by
  rw [skipSpace, List.dropWhile_cons_of_neg (by simp [h])]

theorem isSpace_of_skipSpace (h : skipSpace cs = c :: ds) : isSpace c = false := by
  have hhead := List.head?_dropWhile_not isSpace cs
  rw [show cs.dropWhile isSpace = c :: ds from h] at hhead
  simpa using hhead

/-- Blanks and what stands behind them, in front of anything. -/
theorem skipSpace_eq_append (pre : List Char) (h : skipSpace cs = pre ++ rest) (hne : pre ≠ []) : ∃ blanks,
    cs = blanks ++ (pre ++ rest) ∧ ∀ rest', skipSpace (blanks ++ (pre ++ rest')) = pre ++ rest' := by
  obtain ⟨blanks, hcs, hblanks⟩ := exists_blanks cs
  obtain ⟨c, pre, rfl⟩ := List.exists_cons_of_ne_nil hne
  have hc : isSpace c = false := isSpace_of_skipSpace h
  rw [h] at hcs
  exact ⟨blanks, hcs, fun rest' => by rw [skipSpace_append hblanks, List.cons_append, skipSpace_cons hc]⟩

/-- A local reader behind blanks. -/
theorem Local.skip (hr : Local r) : Local fun cs => r (skipSpace cs) := by
  intro cs a rest h
  obtain ⟨pre, hne, hpre, hends, hreads⟩ := hr h
  obtain ⟨blanks, rfl, hskip⟩ := skipSpace_eq_append pre hpre hne
  refine ⟨blanks ++ pre, by simp [hne], by simp, hends.behind blanks hne, fun rest' hrest => ?_⟩
  rw [List.append_assoc]
  exact (congrArg r (hskip rest')).trans (hreads rest' hrest)

/-- A local reader in front of blanks and a character, which may be followed by anything. -/
theorem Local.upTo {a : α} {after : List Char} (hr : Local r) (h : r cs = some (a, after))
    (hafter : skipSpace after = c :: rest) : ∃ pre, cs = pre ++ c :: rest ∧
      ∀ rest', ∃ after', r (pre ++ c :: rest') = some (a, after') ∧ skipSpace after' = c :: rest' := by
  obtain ⟨pre, -, rfl, -, hreads⟩ := hr h
  obtain ⟨blanks, rfl, hskip⟩ := skipSpace_eq_append [c] hafter (by simp)
  refine ⟨pre ++ blanks, by simp, fun rest' => ⟨blanks ++ c :: rest', ?_, hskip rest'⟩⟩
  rw [List.append_assoc]
  exact hreads _ (.cons blanks c rest rest')

/-- Among the characters of a value is the first one behind blanks. -/
theorem Ends.skipSpace (h : Ends pre) (hne : pre ≠ []) :
    ∃ c more, ∀ rest, skipSpace (pre ++ rest) = c :: (more ++ rest) := by
  obtain ⟨front, last, rfl⟩ := (List.eq_nil_or_concat pre).resolve_left hne
  have hlast : isSpace last = false := by
    have hend : isEnd last = true := h last (by simp)
    cases hspace : isSpace last with
    | false => rfl
    | true => simp [isEnd, isBlank_of_isSpace hspace] at hend
  have hsome : (front.concat last).dropWhile isSpace ≠ [] := by
    intro hnil
    have hall := List.dropWhile_eq_nil_iff.1 hnil last (by simp)
    rw [hlast] at hall
    cases hall
  obtain ⟨c, more, heq⟩ := List.exists_cons_of_ne_nil hsome
  refine ⟨c, more, fun rest => ?_⟩
  rw [Json.skipSpace, List.dropWhile_append, heq]
  rfl

/-- A reader of something that may be empty and is closed by a character. -/
theorem Local.orEmpty {β : Type} (close : Char) (empty : α) (f : β → α)
    {body : List Char → Option (β × List Char)} (hbody : Local body) (hclose : isEnd close = true)
    (hempty : ∀ {cs rest}, skipSpace cs = close :: rest → r cs = some (empty, rest))
    (hmore : ∀ {cs}, (skipSpace cs).head? ≠ some close →
      r cs = (body cs).map fun (b, rest) => (f b, rest)) : Local r := by
  intro cs a rest h
  by_cases hhead : (skipSpace cs).head? = some close
  · obtain ⟨more, hmore⟩ := List.head?_eq_some_iff.1 hhead
    obtain ⟨blanks, rfl, hskip⟩ := skipSpace_eq_append [close] hmore (by simp)
    rw [hempty hmore] at h
    cases h
    refine ⟨blanks ++ [close], by simp, by simp, .snoc blanks hclose, fun rest' _ => ?_⟩
    rw [List.append_assoc]
    exact hempty (hskip rest')
  · rw [hmore hhead] at h
    obtain ⟨⟨b, after⟩, hb, heq⟩ := Option.map_eq_some_iff.1 h
    cases heq
    obtain ⟨pre, hne, rfl, hends, hreads⟩ := hbody hb
    obtain ⟨c, more, hskip⟩ := hends.skipSpace hne
    refine ⟨pre, hne, rfl, hends, fun rest' hrest => ?_⟩
    rw [hskip] at hhead
    rw [hmore (by rw [hskip]; exact hhead), hreads rest' hrest]
    rfl

/-! ## Numbers -/

theorem spanDigits_local (h : Text.spanDigits cs = (ds, rest)) : cs = ds ++ rest ∧
    (∀ c ∈ ds, Text.isDigit c = true) ∧
    ∀ rest', Follows rest rest' → Text.spanDigits (ds ++ rest') = (ds, rest') := by
  unfold Text.spanDigits at h
  cases h
  have hdigits : ∀ c ∈ cs.takeWhile Text.isDigit, Text.isDigit c = true := fun _ => List.mem_takeWhile_imp
  refine ⟨List.takeWhile_append_dropWhile.symm, hdigits, fun rest' hrest => ?_⟩
  unfold Text.spanDigits
  rw [List.takeWhile_append_of_pos hdigits, List.dropWhile_append_of_pos hdigits]
  cases rest' with
  | nil => simp
  | cons c rest' =>
    have hc : Text.isDigit c = false := by
      have hhead := List.head?_dropWhile_not Text.isDigit cs
      rw [hrest c rfl] at hhead
      simpa using hhead
    simp [hc]

theorem fraction?_takes (h : fraction? cs = some (ds, rest)) :
    ∃ pre, cs = pre ++ rest ∧ Takes fraction? pre ds rest := by
  unfold fraction? at h
  split at h
  · rename_i cs
    rcases hspan : Text.spanDigits cs with ⟨digits, after⟩
    obtain ⟨rfl, hdigits, hreads⟩ := spanDigits_local hspan
    simp only [hspan] at h
    split at h
    · cases h
    · rename_i hempty
      cases h
      refine ⟨'.' :: ds, rfl, ?_, fun rest' hrest => ?_⟩
      · exact .behind ['.'] (by simpa using hempty) (.of_digits hdigits)
      · simp only [List.cons_append, fraction?, hreads rest' hrest]
        rw [if_neg hempty]
  · rename_i hpoint
    cases h
    refine ⟨[], rfl, .nil, fun rest' hrest => ?_⟩
    unfold fraction?
    split
    · rename_i heq
      obtain ⟨more, rfl⟩ := List.head?_eq_some_iff.1 (hrest '.' (congrArg List.head? heq))
      exact absurd rfl (hpoint more)
    · rfl

/-- An exponent behind its mark and sign. -/
def exponent? (negative : Bool) (cs : List Char) : Option (Int × List Char) :=
  let (digits, rest) := Text.spanDigits cs
  if digits.isEmpty then none
  else some (if negative then -(Text.ofDigits digits : Int) else Text.ofDigits digits, rest)

theorem exponent?_takes {negative : Bool} {e : Int} (h : exponent? negative cs = some (e, rest)) :
    ∃ d ds, Text.isDigit d = true ∧ cs = d :: ds ++ rest ∧ Takes (exponent? negative) (d :: ds) e rest := by
  rcases hspan : Text.spanDigits cs with ⟨_ | ⟨d, ds⟩, after⟩
  · simp [exponent?, hspan] at h
  · obtain ⟨rfl, hdigits, hreads⟩ := spanDigits_local hspan
    simp only [exponent?, hspan, List.isEmpty_cons, Bool.false_eq_true, if_false, Option.some.injEq,
      Prod.mk.injEq] at h
    obtain ⟨rfl, rfl⟩ := h
    refine ⟨d, ds, hdigits d List.mem_cons_self, rfl, .of_digits hdigits, fun rest' hrest => ?_⟩
    rw [exponent?, hreads rest' hrest]
    rfl

theorem readExponent?_mark (hmark : c = 'e' ∨ c = 'E') (cs : List Char) :
    Text.readExponent? (c :: '-' :: cs) = exponent? true cs ∧
    Text.readExponent? (c :: '+' :: cs) = exponent? false cs ∧
    (cs.head? ≠ some '-' → cs.head? ≠ some '+' → Text.readExponent? (c :: cs) = exponent? false cs) := by
  refine ⟨by simp [Text.readExponent?, hmark, exponent?], by simp [Text.readExponent?, hmark, exponent?], ?_⟩
  intro hminus hplus
  unfold Text.readExponent?
  simp only [hmark, if_true]
  split
  · simp at hminus
  · simp at hplus
  · rfl

theorem readExponent?_takes {e : Int} (h : Text.readExponent? cs = some (e, rest)) :
    ∃ pre, cs = pre ++ rest ∧ Takes Text.readExponent? pre e rest := by
  rcases cs with _ | ⟨c, cs⟩
  · cases h
    refine ⟨[], rfl, .nil, fun rest' hrest => ?_⟩
    rw [hrest.nil]
    rfl
  · by_cases hmark : c = 'e' ∨ c = 'E'
    · -- a sign, if there is one, stands in front of a digit
      have hsigned : ∀ sign {negative body}, exponent? negative body = some (e, rest) →
          (∀ d more, Text.isDigit d = true →
            Text.readExponent? (c :: (sign ++ d :: more)) = exponent? negative (d :: more)) →
          ∃ pre, c :: (sign ++ body) = pre ++ rest ∧ Takes Text.readExponent? pre e rest := by
        intro sign negative body h hsign
        obtain ⟨d, ds, hd, rfl, hends, hreads⟩ := exponent?_takes h
        refine ⟨c :: (sign ++ d :: ds), by simp, ?_, fun rest' hrest => ?_⟩
        · exact .behind (c :: sign) (by simp) hends
        · have hread := (hsign d (ds ++ rest') hd).trans (hreads rest' hrest)
          simpa using hread
      by_cases hminus : cs.head? = some '-'
      · obtain ⟨body, rfl⟩ := List.head?_eq_some_iff.1 hminus
        rw [(readExponent?_mark hmark body).1] at h
        exact hsigned ['-'] h fun d more _ => (readExponent?_mark hmark (d :: more)).1
      by_cases hplus : cs.head? = some '+'
      · obtain ⟨body, rfl⟩ := List.head?_eq_some_iff.1 hplus
        rw [(readExponent?_mark hmark body).2.1] at h
        exact hsigned ['+'] h fun d more _ => (readExponent?_mark hmark (d :: more)).2.1
      · rw [(readExponent?_mark hmark cs).2.2 hminus hplus] at h
        refine hsigned [] h fun d more hd => (readExponent?_mark hmark (d :: more)).2.2 ?_ ?_ <;>
        · rintro ⟨⟩
          cases hd
    · have hnone : ∀ more, Text.readExponent? (c :: more) = some (0, c :: more) := by
        intro more
        unfold Text.readExponent?
        simp only [hmark, if_false]
      rw [hnone] at h
      cases h
      refine ⟨[], rfl, .nil, fun rest' hrest => ?_⟩
      cases rest' with
      | nil => rfl
      | cons d rest' =>
        cases hrest d rfl
        exact hnone rest'

theorem magnitude?_ok (negative : Bool) {n : Number} {whole behind : List Char}
    (hspan : Text.spanDigits cs = (whole, behind)) : magnitude? negative cs = some (n, rest) ↔
      (whole.isEmpty || (whole.head? == some '0' && whole.length != 1)) = false ∧
      ∃ fraction exponent afterFraction, fraction? behind = some (fraction, afterFraction) ∧
        Text.readExponent? afterFraction = some (exponent, rest) ∧
        ofParts? negative whole fraction exponent (rest.length = behind.length) = some n := by
  unfold magnitude?
  simp only [hspan]
  split
  · rename_i hbad
    simp [hbad]
  · rename_i hgood
    simp only [Bool.not_eq_true] at hgood
    simp only [Option.bind_eq_bind, Option.bind_eq_some_iff, Prod.exists, hgood, true_and,
      Option.map_eq_some_iff]
    constructor
    · rintro ⟨fraction, afterFraction, hfraction, exponent, after, hexponent, n, hn, heq⟩
      cases heq
      exact ⟨fraction, exponent, afterFraction, hfraction, hexponent, hn⟩
    · rintro ⟨fraction, exponent, afterFraction, hfraction, hexponent, hn⟩
      exact ⟨fraction, afterFraction, hfraction, exponent, rest, hexponent, n, hn, rfl⟩

theorem magnitude?_local (negative : Bool) : Local (magnitude? negative) := by
  intro cs n rest h
  rcases hspan : Text.spanDigits cs with ⟨whole, behind⟩
  obtain ⟨hwhole, fraction, exponent, afterFraction, hfraction, hexponent, hn⟩ := (magnitude?_ok negative hspan).1 h
  obtain ⟨rfl, hdigits, hspans⟩ := spanDigits_local hspan
  obtain ⟨f, rfl, hfends, hfreads⟩ := fraction?_takes hfraction
  obtain ⟨x, rfl, hxends, hxreads⟩ := readExponent?_takes hexponent
  have hne : whole ≠ [] := by
    rintro rfl
    cases hwhole
  refine ⟨whole ++ (f ++ x), by simp [hne], by simp, ?_, fun rest' hrest => ?_⟩
  · exact (Ends.of_digits hdigits).append (hfends.append hxends)
  · have hspan' := hspans (f ++ (x ++ rest')) ((hrest.append x).append f)
    have hlength : decide (rest'.length = (f ++ (x ++ rest')).length) =
        decide (rest.length = (f ++ (x ++ rest)).length) := by
      simp only [List.length_append, decide_eq_decide]
      omega
    have hreads := (magnitude?_ok negative hspan').2 ⟨hwhole, fraction, exponent, x ++ rest',
      hfreads _ (hrest.append x), hxreads rest' hrest, by rw [hlength, hn]⟩
    simpa using hreads

/-- A number starts with a digit or a minus sign. -/
theorem number?_head {n : Number} (h : number? (c :: cs) = some (n, rest)) :
    c = '-' ∨ Text.isDigit c = true := by
  by_cases hc : c = '-'
  · exact .inl hc
  · right
    have hnumber : number? (c :: cs) = magnitude? false (c :: cs) := by
      unfold number?
      split
      · simp_all
      · rfl
    rw [hnumber] at h
    obtain ⟨hwhole, _⟩ := (magnitude?_ok false rfl).1 h
    by_contra hdigit
    simp [hdigit] at hwhole

theorem number?_local : Local number? := by
  intro cs n rest h
  unfold number? at h
  split at h
  · obtain ⟨pre, hne, rfl, hends, hreads⟩ := magnitude?_local true h
    exact ⟨'-' :: pre, by simp, rfl, hends.behind ['-'] hne, fun rest' hrest => hreads rest' hrest⟩
  · rename_i hminus
    obtain ⟨pre, hne, rfl, hends, hreads⟩ := magnitude?_local false h
    obtain ⟨c, pre, rfl⟩ := List.exists_cons_of_ne_nil hne
    refine ⟨c :: pre, hne, rfl, hends, fun rest' hrest => ?_⟩
    rw [← hreads rest' hrest]
    unfold number?
    split
    · rename_i heq
      cases heq
      exact absurd rfl (hminus _)
    · rfl

/-! ## Strings -/

theorem stringBody?_local : Local stringBody? := by
  intro cs a rest h
  fun_induction stringBody? cs generalizing a rest with
  | case1 => cases h
  | case2 cs =>
    cases h
    exact ⟨['"'], by simp, rfl, .snoc [] rfl, fun rest' _ => by simp [stringBody?]⟩
  | case3 => cases h
  | case4 cs d n hescape hquote ih =>
    obtain ⟨⟨ds, after⟩, hds, heq⟩ := Option.map_eq_some_iff.1 h
    cases heq
    obtain ⟨taken, behind, rfl, rfl, hescapes⟩ := Text.Escape.read_local hescape
    rw [List.drop_left] at hds ih
    obtain ⟨pre, hne, rfl, hends, hreads⟩ := ih hds
    refine ⟨'\\' :: (taken ++ pre), by simp, by simp, hends.behind ('\\' :: taken) hne, fun rest' hrest => ?_⟩
    rw [List.cons_append, stringBody?, if_neg hquote, if_pos rfl, List.append_assoc]
    simp only [hescapes, List.drop_left, hreads rest' hrest]
    rfl
  | case5 => cases h
  | case6 c cs hquote hback hcontrol ih =>
    obtain ⟨⟨ds, after⟩, hds, heq⟩ := Option.map_eq_some_iff.1 h
    cases heq
    obtain ⟨pre, hne, rfl, hends, hreads⟩ := ih hds
    refine ⟨c :: pre, by simp, rfl, hends.behind [c] hne, fun rest' hrest => ?_⟩
    rw [List.cons_append, stringBody?, if_neg hquote, if_neg hback, if_neg hcontrol, hreads rest' hrest]
    rfl

theorem string?_local : Local string? := by
  intro cs a rest h
  unfold string? at h
  split at h
  · obtain ⟨⟨ds, after⟩, hds, heq⟩ := Option.map_eq_some_iff.1 h
    cases heq
    obtain ⟨pre, hne, rfl, hends, hreads⟩ := stringBody?_local hds
    refine ⟨'"' :: pre, by simp, rfl, hends.behind ['"'] hne, fun rest' hrest => ?_⟩
    rw [List.cons_append, string?, hreads rest' hrest]
    rfl
  · cases h

/-! ## Values -/

/-- Only numbers start with other characters than words and strings do. -/
theorem scalar?_of_other (h : c ∉ ['n', 't', 'f', '"']) (cs : List Char) :
    scalar? (c :: cs) = (number? (c :: cs)).map fun (n, rest) => (.number n, rest) := by
  unfold scalar?
  split <;> first | rfl | (rename_i heq; cases heq; exact absurd (by decide) h)

theorem scalar?_local : Local scalar? := by
  intro cs a rest h
  unfold scalar? at h
  split at h
  · cases h
    exact ⟨['n', 'u', 'l', 'l'], by simp, rfl, .snoc ['n', 'u', 'l'] rfl, fun _ _ => rfl⟩
  · cases h
    exact ⟨['t', 'r', 'u', 'e'], by simp, rfl, .snoc ['t', 'r', 'u'] rfl, fun _ _ => rfl⟩
  · cases h
    exact ⟨['f', 'a', 'l', 's', 'e'], by simp, rfl, .snoc ['f', 'a', 'l', 's'] rfl, fun _ _ => rfl⟩
  · obtain ⟨⟨s, after⟩, hs, heq⟩ := Option.map_eq_some_iff.1 h
    cases heq
    obtain ⟨pre, hne, hcs, hends, hreads⟩ := string?_local hs
    obtain ⟨c, pre, rfl⟩ := List.exists_cons_of_ne_nil hne
    cases hcs
    refine ⟨'"' :: pre, hne, rfl, hends, fun rest' hrest => ?_⟩
    have hread := hreads rest' hrest
    rw [List.cons_append] at hread ⊢
    simp only [scalar?, hread]
    rfl
  · obtain ⟨⟨n, after⟩, hn, heq⟩ := Option.map_eq_some_iff.1 h
    cases heq
    obtain ⟨pre, hne, rfl, hends, hreads⟩ := number?_local hn
    obtain ⟨c, pre, rfl⟩ := List.exists_cons_of_ne_nil hne
    refine ⟨c :: pre, hne, rfl, hends, fun rest' hrest => ?_⟩
    have hread := hreads rest' hrest
    have hother : c ∉ ['n', 't', 'f', '"'] := by
      have hhead := number?_head hn
      intro hc
      simp only [List.mem_cons, List.not_mem_nil, or_false] at hc
      rcases hc with rfl | rfl | rfl | rfl <;> exact absurd hhead (by decide)
    rw [List.cons_append] at hread ⊢
    rw [scalar?_of_other hother, hread]
    rfl

section Nested

variable {value : List Char → Option (Json × List Char)} (hvalue : Local value)
include hvalue

theorem items?_local : Local (items? value) := by
  intro cs vs rest h
  fun_induction items? value cs generalizing vs rest with
  | case1 => cases h
  | case2 cs v after hv rest hafter =>
    cases h
    obtain ⟨pre, rfl, hreads⟩ := hvalue.skip.upTo hv hafter
    refine ⟨pre ++ [']'], by simp, by simp, .snoc pre rfl, fun rest' _ => ?_⟩
    obtain ⟨after', hread, hskip⟩ := hreads rest'
    rw [List.append_assoc, List.singleton_append, items?]
    simp only [hread, hskip]
  | case3 cs v after hv mid hafter hlt ih =>
    obtain ⟨⟨ws, rest⟩, hws, heq⟩ := Option.map_eq_some_iff.1 h
    cases heq
    obtain ⟨pre, rfl, hreads⟩ := hvalue.skip.upTo hv hafter
    obtain ⟨pre', hne, rfl, hends, hreads'⟩ := ih hws
    refine ⟨pre ++ ',' :: pre', by simp, by simp, .behind pre (by simp) (hends.behind [','] hne), ?_⟩
    intro rest' hrest
    obtain ⟨after', hread, hskip⟩ := hreads (pre' ++ rest')
    rw [List.append_assoc, List.cons_append, items?]
    simp only [hread, hskip, hreads' rest' hrest]
    rw [if_pos (by simp; omega)]
    rfl
  | case4 => cases h
  | case5 => cases h

theorem array?_local : Local (array? value) := by
  refine Local.orEmpty ']' (array []) array (items?_local hvalue) rfl
    (fun h => by rw [array?, h]; rfl) fun h => ?_
  unfold array?
  split
  · simp_all
  · rfl

theorem member?_local : Local (member? value) := by
  intro cs m rest h
  unfold member? at h
  split at h
  · cases h
  · rename_i key after hkey
    split at h
    · rename_i mid hafter
      obtain ⟨⟨v, after⟩, hv, heq⟩ := Option.map_eq_some_iff.1 h
      cases heq
      obtain ⟨pre, rfl, hreads⟩ := string?_local.skip.upTo hkey hafter
      obtain ⟨pre', hne, rfl, hends, hreads'⟩ := hvalue.skip hv
      refine ⟨pre ++ ':' :: pre', by simp, by simp, .behind pre (by simp) (hends.behind [':'] hne), ?_⟩
      intro rest' hrest
      obtain ⟨after', hread, hskip⟩ := hreads (pre' ++ rest')
      rw [List.append_assoc, List.cons_append, member?]
      simp only [hread, hskip, hreads' rest' hrest]
      rfl
    · cases h

theorem members?_local : Local (members? value) := by
  intro cs ms rest h
  fun_induction members? value cs generalizing ms rest with
  | case1 => cases h
  | case2 cs m after hm rest hafter =>
    cases h
    obtain ⟨pre, rfl, hreads⟩ := (member?_local hvalue).upTo hm hafter
    refine ⟨pre ++ ['}'], by simp, by simp, .snoc pre rfl, fun rest' _ => ?_⟩
    obtain ⟨after', hread, hskip⟩ := hreads rest'
    rw [List.append_assoc, List.singleton_append, members?]
    simp only [hread, hskip]
  | case3 cs m after hm mid hafter hlt ih =>
    obtain ⟨⟨ns, rest⟩, hns, heq⟩ := Option.map_eq_some_iff.1 h
    cases heq
    obtain ⟨pre, rfl, hreads⟩ := (member?_local hvalue).upTo hm hafter
    obtain ⟨pre', hne, rfl, hends, hreads'⟩ := ih hns
    refine ⟨pre ++ ',' :: pre', by simp, by simp, .behind pre (by simp) (hends.behind [','] hne), ?_⟩
    intro rest' hrest
    obtain ⟨after', hread, hskip⟩ := hreads (pre' ++ rest')
    rw [List.append_assoc, List.cons_append, members?]
    simp only [hread, hskip, hreads' rest' hrest]
    rw [if_pos (by simp; omega)]
    rfl
  | case4 => cases h
  | case5 => cases h

theorem object?_local : Local (object? value) := by
  refine Local.orEmpty '\x7d' (object []) ofMembers (members?_local hvalue) rfl
    (fun h => by rw [object?, h]; rfl) fun h => ?_
  unfold object?
  split
  · simp_all
  · rfl

end Nested

/-- A value is read from its own characters. -/
theorem value?_local (depth : Nat) : Local (value? depth) := by
  induction depth with
  | zero => exact scalar?_local
  | succ depth ih =>
    intro cs v rest h
    unfold value? at h
    split at h
    · obtain ⟨pre, hne, rfl, hends, hreads⟩ := array?_local ih h
      exact ⟨'[' :: pre, by simp, rfl, hends.behind ['['] hne, hreads⟩
    · obtain ⟨pre, hne, rfl, hends, hreads⟩ := object?_local ih h
      exact ⟨'{' :: pre, by simp, rfl, hends.behind ['{'] hne, hreads⟩
    · rename_i hbracket hbrace
      obtain ⟨pre, hne, rfl, hends, hreads⟩ := scalar?_local h
      obtain ⟨c, pre, rfl⟩ := List.exists_cons_of_ne_nil hne
      refine ⟨c :: pre, hne, rfl, hends, fun rest' hrest => ?_⟩
      rw [← hreads rest' hrest]
      unfold value?
      split
      · rename_i heq
        cases heq
        exact absurd rfl (hbracket _)
      · rename_i heq
        cases heq
        exact absurd rfl (hbrace _)
      · rfl

/-- A value does not start with a blank. -/
theorem value?_head {depth : Nat} {v : Json} (h : value? depth (c :: cs) = some (v, rest)) :
    Text.isBlank c = false := by
  cases hblank : Text.isBlank c with
  | false => rfl
  | true =>
    have hscalar : value? depth (c :: cs) = scalar? (c :: cs) := by
      cases depth with
      | zero => rfl
      | succ depth =>
        unfold value?
        split <;> first | rfl | (rename_i heq; cases heq; exact absurd hblank (by decide))
    have hother : c ∉ ['n', 't', 'f', '"'] := by
      intro hc
      simp only [List.mem_cons, List.not_mem_nil, or_false] at hc
      rcases hc with rfl | rfl | rfl | rfl <;> exact absurd hblank (by decide)
    rw [hscalar, scalar?_of_other hother] at h
    obtain ⟨_, hn, _⟩ := Option.map_eq_some_iff.1 h
    rcases number?_head hn with rfl | hdigit
    · cases hblank
    · have hend := isEnd_of_isDigit hdigit
      simp [isEnd, hblank] at hend

/-! ## Texts -/

/-- The characters of a value: not blank at either end, without a backslash at the end, and read to the
end. -/
structure IsValue (cs : List Char) (v : Json) : Prop where
  starts : ∀ c ∈ cs.head?, Text.isBlank c = false
  ends : Ends cs
  reads : value? maxDepth cs = some (v, [])

/-- A JSON text is a value between blanks. -/
theorem exists_value {v : Json} (h : read? cs = some v) : ∃ front core back,
    cs = front ++ (core ++ back) ∧ (∀ c ∈ front, isSpace c = true) ∧ (∀ c ∈ back, isSpace c = true) ∧
      core ≠ [] ∧ IsValue core v := by
  obtain ⟨front, hcs, hfront⟩ := exists_blanks cs
  unfold read? at h
  split at h
  · rename_i w rest hvalue
    split at h
    · rename_i hempty
      cases h
      obtain ⟨core, hne, hcore, hends, hreads⟩ := value?_local maxDepth hvalue
      obtain ⟨back, hback, hspace⟩ := exists_blanks rest
      rw [List.isEmpty_iff.1 hempty, List.append_nil] at hback
      subst hback
      refine ⟨front, core, rest, by rw [← hcore, ← hcs], hfront, hspace, hne, ?_, hends, ?_⟩
      · obtain ⟨c, core, rfl⟩ := List.exists_cons_of_ne_nil hne
        rw [hcore] at hvalue
        rintro d ⟨⟩
        exact value?_head hvalue
      · simpa using hreads [] nofun
    · cases h
  · cases h

/-- The characters of a value are a JSON text. -/
theorem IsValue.read? {v : Json} (h : IsValue cs v) : read? cs = some v := by
  have hskip : skipSpace cs = cs := by
    cases cs with
    | nil => rfl
    | cons c cs =>
      have hc : isSpace c = false := by
        cases hspace : isSpace c with
        | false => rfl
        | true => exact absurd (isBlank_of_isSpace hspace) (by simp [h.starts c rfl])
      exact skipSpace_cons hc
  unfold Json.read?
  rw [hskip, h.reads]
  rfl

/-- Of a value between blanks the value is left. -/
theorem trim_eq {front core back : List Char} {v : Json} (hfront : ∀ c ∈ front, Text.isBlank c = true)
    (hback : ∀ c ∈ back, Text.isBlank c = true) (hcore : IsValue core v) (hne : core ≠ []) :
    Text.trim (front ++ (core ++ back)) = core := by
  refine Text.trim_append hfront hback hcore.starts (fun c hc => ?_) hne
  have hend := hcore.ends c hc
  simp only [isEnd, Bool.and_eq_true, Bool.not_eq_true'] at hend
  exact hend.1

/-- **The blanks around a JSON text do not matter**, and it does not end with a backslash. -/
theorem read?_trim {v : Json} (h : read? cs = some v) :
    read? (Text.trim cs) = some v ∧ cs.getLast? ≠ some '\\' := by
  obtain ⟨front, core, back, rfl, hfront, hback, hne, hcore⟩ := exists_value h
  have htrim := trim_eq (fun c hc => isBlank_of_isSpace (hfront c hc)) (fun c hc => isBlank_of_isSpace (hback c hc))
    hcore hne
  refine ⟨by rw [htrim, hcore.read?], fun hlast => ?_⟩
  rw [List.getLast?_append_of_ne_nil front (by simp [hne]), List.getLast?_append] at hlast
  rcases Option.or_eq_some_iff.1 hlast with hlast | ⟨-, hlast⟩
  · exact absurd (hback _ (List.mem_of_getLast? hlast)) (by decide)
  · exact absurd (hcore.ends _ hlast) (by decide)

end JsonQuery.Json
