import JsonQuery.Proofs.Engine
import JsonQuery.Proofs.Grammar.Reads
import JsonQuery.Proofs.Grammar.Text
import JsonQuery.Proofs.Json.Locality

/-!
# Names, strings and values, written as queries

Every name, every string and every JSON text can be written as a query of one token.

* `Token.writeRaw`, `Token.writeLiteral` — a string between quotes, and a JSON text between backticks.
* `Token.scanQuoted_written`, `Token.scanRaw_written`, `Token.scanLiteral_written` — the three kinds of
  quoted text are scanned back to what they were written from.
* `Engine.compile_written` — so they are compiled to the name, the string and the value.
-/

namespace JsonQuery

namespace Token

variable {c : Char} {cs : List Char}

/-! ## Writing -/

/-- A character of a raw string: a quote and a backslash are escaped. -/
def rawChar (c : Char) : List Char := if c = '\\' ∨ c = '\'' then ['\\', c] else [c]

/-- A raw string. -/
def writeRaw (s : String) : String := String.ofList ('\'' :: (s.toList.flatMap rawChar ++ ['\'']))

/-- A character of a literal: a backtick is escaped. -/
def literalChar (c : Char) : List Char := if c = '`' then ['\\', c] else [c]

/-- A literal with this JSON text. -/
def writeLiteral (text : String) : String :=
  String.ofList ('`' :: (text.toList.flatMap literalChar ++ ['`']))

/-! ## Names -/

theorem hexQuad?_hexDigit : ∀ n < 0x20,
    Text.hexQuad? '0' '0' (Json.hexDigit (n / 16)) (Json.hexDigit (n % 16)) = some n := by
  decide

/-- A control character is read back from its four digits. -/
theorem read_control (h : c.toNat < 0x20) (more : List Char) :
    Text.Escape.read (['u', '0', '0', Json.hexDigit (c.toNat / 16), Json.hexDigit (c.toNat % 16)] ++ more) =
      .ok (c, 5) := by
  have hhigh : Text.isHighSurrogate c.toNat = false := by
    simp only [Text.isHighSurrogate, Bool.and_eq_false_iff, decide_eq_false_iff_not]
    omega
  have hlow : Text.isLowSurrogate c.toNat = false := by
    simp only [Text.isLowSurrogate, Bool.and_eq_false_iff, decide_eq_false_iff_not]
    omega
  simp [Text.Escape.read, Text.Escape.unit?, hexQuad?_hexDigit _ h, hhigh, hlow]

/-- A character stands for itself or is written as an escape that is read back to it. -/
theorem escapeChar_cases (c : Char) : (Json.escapeChar c = [c] ∧ c ≠ '"' ∧ c ≠ '\\') ∨
    ∃ escape, Json.escapeChar c = '\\' :: escape ∧
      ∀ more, Text.Escape.read (escape ++ more) = .ok (c, escape.length) := by
  have hshort : ∀ d, Text.Escape.short? d = some c → d ≠ 'u' →
      ∀ more, Text.Escape.read ([d] ++ more) = .ok (c, 1) := by
    intro d hd hu more
    simp [Text.Escape.read, hu, hd]
  have hcode : ∀ {n}, c.toNat = n → some (Char.ofNat n) = some c := by
    rintro n rfl
    rw [Char.ofNat_toNat]
  unfold Json.escapeChar
  split_ifs with hquote hback hline hreturn htab hbell hfeed hcontrol
  case neg => exact .inl ⟨rfl, hquote, hback⟩
  all_goals right
  · exact ⟨['"'], rfl, hshort _ (by rw [hquote]; rfl) (by decide)⟩
  · exact ⟨['\\'], rfl, hshort _ (by rw [hback]; rfl) (by decide)⟩
  · exact ⟨['n'], rfl, hshort _ (by rw [hline]; rfl) (by decide)⟩
  · exact ⟨['r'], rfl, hshort _ (by rw [hreturn]; rfl) (by decide)⟩
  · exact ⟨['t'], rfl, hshort _ (by rw [htab]; rfl) (by decide)⟩
  · exact ⟨['b'], rfl, hshort _ (hcode hbell) (by decide)⟩
  · exact ⟨['f'], rfl, hshort _ (hcode hfeed) (by decide)⟩
  · exact ⟨_, rfl, read_control hcontrol⟩

theorem scanQuoted_written (cs : List Char) (taken : Nat) :
    scanQuoted taken (cs.flatMap Json.escapeChar ++ ['"']) =
      .ok (cs, taken + (cs.flatMap Json.escapeChar).length + 1) := by
  induction cs generalizing taken with
  | nil => simp [scanQuoted]
  | cons c cs ih =>
    rw [List.flatMap_cons, List.append_assoc, List.length_append]
    rcases escapeChar_cases c with ⟨hc, hquote, hback⟩ | ⟨escape, hc, hreads⟩
    · rw [hc, List.singleton_append, scanQuoted, if_neg hquote, if_neg hback]
      simp only [ih, List.length_singleton]
      rw [← Nat.add_assoc]
    · rw [hc, List.cons_append, scanQuoted, if_neg (by decide), if_pos rfl]
      simp only [hreads, List.drop_left, ih, List.length_cons]
      congr 2
      omega

/-! ## Raw strings -/

theorem scanRaw_written (cs : List Char) :
    scanRaw (cs.flatMap rawChar ++ ['\'']) = some (cs, (cs.flatMap rawChar).length + 1) := by
  induction cs with
  | nil => rfl
  | cons c cs ih =>
    rw [List.flatMap_cons, List.append_assoc, List.length_append]
    by_cases hquote : c = '\''
    · subst hquote
      simp [rawChar, scanRaw, ih]
      omega
    by_cases hback : c = '\\'
    · subst hback
      simp [rawChar, scanRaw, ih]
      omega
    · simp [rawChar, hquote, hback, scanRaw, ih]
      omega

/-! ## Literals -/

/-- Only nothing is written as something that starts with a backtick. -/
theorem exists_literal_head (hne : cs ≠ []) (rest : List Char) :
    ∃ d more, cs.flatMap literalChar ++ rest = d :: more ∧ d ≠ '`' := by
  obtain ⟨c, cs, rfl⟩ := List.exists_cons_of_ne_nil hne
  by_cases hc : c = '`'
  · exact ⟨'\\', c :: (cs.flatMap literalChar ++ rest), by simp [literalChar, hc], by decide⟩
  · exact ⟨c, cs.flatMap literalChar ++ rest, by simp [literalChar, hc], hc⟩

theorem scanLiteral_written (h : cs.getLast? ≠ some '\\') :
    scanLiteral (cs.flatMap literalChar ++ ['`']) = some (cs, (cs.flatMap literalChar).length + 1) := by
  induction cs with
  | nil => rfl
  | cons c cs ih =>
    have hread := ih (by cases cs <;> simp_all)
    rw [List.flatMap_cons, List.append_assoc, List.length_append]
    by_cases htick : c = '`'
    · subst htick
      simp [literalChar, scanLiteral, hread]
      omega
    by_cases hback : c = '\\'
    · have hne : cs ≠ [] := by
        rintro rfl
        exact h (congrArg some hback)
      -- the backtick behind the last backslash would be taken for an escaped one
      obtain ⟨d, more, hmore, hd⟩ := exists_literal_head hne ['`']
      rw [hmore] at hread ⊢
      subst hback
      simp [literalChar, scanLiteral, hd, hread]
      omega
    · simp [literalChar, htick, hback, scanLiteral, hread]
      omega

end Token

/-! ## Queries of one token -/

variable {c : Char} {cs : List Char} {t : Token}

theorem Scans.one (hspace : Json.isSpace c = false) (h : Token.scan c cs = .ok (t, cs.length)) :
    Scans (c :: cs) [t] := by
  refine .token hspace h ?_
  rw [List.drop_length]
  exact .done

/-- A name as JSON writes it. -/
theorem Scans.of_compact (s : String) : Scans (Json.string s).compact.toList [.quoted s] := by
  have hscan := Token.scanQuoted_written s.toList 1
  rw [Json.compact, Json.write, String.toList_ofList]
  refine .one rfl ?_
  unfold Token.scan
  simp only [hscan, String.ofList_toList]
  simp [Nat.add_comm]

/-- A string between quotes. -/
theorem Scans.of_writeRaw (s : String) : Scans (Token.writeRaw s).toList [.raw s] := by
  have hscan := Token.scanRaw_written s.toList
  rw [Token.writeRaw, String.toList_ofList]
  refine .one rfl ?_
  unfold Token.scan
  simp only [hscan, String.ofList_toList]
  simp

/-- A JSON text between backticks. -/
theorem Scans.of_writeLiteral {text : String} {v : Json} (h : Json.parse? text = some v) :
    Scans (Token.writeLiteral text).toList [.literal v] := by
  obtain ⟨hread, hlast⟩ := Json.read?_trim h
  have hscan := Token.scanLiteral_written hlast
  rw [Token.writeLiteral, String.toList_ofList]
  refine .one rfl ?_
  unfold Token.scan
  simp only [hscan, hread]
  simp

/-- A text of one token that is an expression is compiled by every engine that allows any nesting. -/
theorem Engine.compile_one {e : Engine} {text : String} {expr : Expr} (hdepth : 0 < e.options.maxDepth)
    (hscans : Scans text.toList [t]) (h : ∀ S, Grammar.Primary e.registry.arity? S [t] expr []) :
    e.compile text = .ok ⟨text, expr, e.registry⟩ := by
  obtain ⟨depth, hlimit⟩ := Nat.exists_eq_succ_of_ne_zero (Nat.ne_of_gt hdepth)
  have hread : Grammar.expression e.registry.arity? (depth + 1) (depth + 1) 0 [t] = .ok (expr, []) :=
    Grammar.expression_succ (h _) (Grammar.chain_stop (Nat.le_refl 0))
  refine Engine.compile_ok.2 ⟨expr, Expr.parse_ok.2 ⟨[t], hscans, ?_⟩, rfl⟩
  rw [hlimit]
  exact hread

/-- **Every name, every string and every JSON text can be written.**  An engine that allows any nesting
compiles a name, as JSON writes it, to the member of that name, a string between quotes, with quotes and
backslashes escaped, to that string, and a JSON text between backticks, with backticks escaped, to its
value. -/
theorem Engine.compile_written (e : Engine) (hdepth : 0 < e.options.maxDepth) :
    (∀ s, ∃ q, e.compile (Json.string s).compact = .ok q ∧ q.expr = .identifier s ∧
      ∀ members, (q.search (.object members)).result = .ok ((members.lookup s).getD .null)) ∧
    (∀ s, ∃ q, e.compile (Token.writeRaw s) = .ok q ∧ q.expr = .literal (.string s)) ∧
    (∀ text v, Json.parse? text = some v →
      ∃ q, e.compile (Token.writeLiteral text) = .ok q ∧ q.expr = .literal v) := by
  refine ⟨fun s => ?_, fun s => ?_, fun text v h => ?_⟩
  · refine ⟨_, Engine.compile_one hdepth (.of_compact s) fun S => .quoted nofun, rfl, fun members => ?_⟩
    simp [Query.search, Expr.eval, Eval.member, Traced.absorb]
  · exact ⟨_, Engine.compile_one hdepth (.of_writeRaw s) fun S => .raw, rfl⟩
  · exact ⟨_, Engine.compile_one hdepth (.of_writeLiteral h) fun S => .literal, rfl⟩

/-- A name that ends with a backslash, a string of a backslash and a quote, and a JSON text in which two
backslashes stand in front of a backtick. -/
theorem Engine.compile_written_backslashes :
    0 < (Engine.standard .plain).options.maxDepth ∧ Json.parse? "\"\\\\`\"" = some (.string "\\`") ∧
    (∃ q, (Engine.standard .plain).compile "\"a\\\\\"" = .ok q ∧ q.expr = .identifier "a\\" ∧
      (q.search (.object [("a\\", .bool true)])).result = .ok (.bool true)) ∧
    (∃ q, (Engine.standard .plain).compile "'\\\\\\''" = .ok q ∧ q.expr = .literal (.string "\\'")) ∧
    ∃ q, (Engine.standard .plain).compile "`\"\\\\\\`\"`" = .ok q ∧ q.expr = .literal (.string "\\`") := by
  have hdepth : 0 < (Engine.standard .plain).options.maxDepth := by decide
  have hparse : Json.parse? "\"\\\\`\"" = some (.string "\\`") := by cbv
  obtain ⟨hname, hraw, hliteral⟩ := Engine.compile_written (Engine.standard .plain) hdepth
  refine ⟨hdepth, hparse, ?_, ?_, ?_⟩
  · obtain ⟨q, hq, hexpr, hsearch⟩ := hname "a\\"
    exact ⟨q, hq, hexpr, hsearch _⟩
  · exact hraw "\\'"
  · exact hliteral "\"\\\\`\"" (.string "\\`") hparse

end JsonQuery
