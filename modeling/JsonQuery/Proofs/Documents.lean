import JsonQuery.CommandLine
import JsonQuery.Proofs.Eval.Failures
import JsonQuery.Proofs.Json.Grammar

/-!
# Literals and documents

JSON text stands between backticks in a query, and is the input of the program.  In both places blanks of
any script are taken off before it is read.

* `Json.Wrapped`, `Json.Foreign` — a value between blanks of any script, and one between blanks that JSON does not
  know.
* `Json.read?_trim_iff`, `Json.jsonText_iff` — texts of the first kind are accepted, and those that are not of the
  second are the JSON texts.
* `Token.Escaped`, `Token.unescape` — texts that can stand between backticks, and what they stand for.
* `Query.payloadFault_of_search` — how a search with the standard functions fails.
* `literals_and_documents` — what is accepted as a literal and as a document.
-/

namespace JsonQuery

namespace Json

variable {cs front core back : List Char} {v w : Json}

/-! ## Blanks of any script -/

/-- A value between blanks of any script. -/
def Wrapped (cs : List Char) (v : Json) : Prop :=
  ∃ front core back, cs = front ++ (core ++ back) ∧ (∀ c ∈ front, Text.isBlank c = true) ∧
    (∀ c ∈ back, Text.isBlank c = true) ∧ ValueText maxDepth core v

/-- A value between blanks of which some are not those of JSON. -/
def Foreign (cs : List Char) : Prop :=
  ∃ front core back v, cs = front ++ (core ++ back) ∧ (∀ c ∈ front, Text.isBlank c = true) ∧
    (∀ c ∈ back, Text.isBlank c = true) ∧ ValueText maxDepth core v ∧ ¬ (Spaces front ∧ Spaces back)

theorem ValueText.isValue (h : ValueText maxDepth core v) : IsValue core v ∧ core ≠ [] := by
  have hread : value? maxDepth core = some (v, []) := by
    simpa using (value?_exact maxDepth).complete h .nil
  obtain ⟨pre, hne, hpre, hends, -⟩ := value?_local maxDepth hread
  rw [List.append_nil] at hpre
  subst hpre
  refine ⟨⟨fun c hc => ?_, hends, hread⟩, hne⟩
  obtain ⟨more, rfl⟩ := List.head?_eq_some_iff.1 hc
  exact value?_head hread

/-- The characters of a value are left when a text is trimmed. -/
theorem ValueText.trim_eq (h : ValueText maxDepth core v) (hfront : ∀ c ∈ front, Text.isBlank c = true)
    (hback : ∀ c ∈ back, Text.isBlank c = true) : Text.trim (front ++ (core ++ back)) = core :=
  Json.trim_eq hfront hback h.isValue.1 h.isValue.2

theorem isBlank_of_spaces (h : Spaces cs) : ∀ c ∈ cs, Text.isBlank c = true :=
  fun c hc => isBlank_of_isSpace (h c hc)

/-- **What is accepted where blanks are taken off.** -/
theorem read?_trim_iff : read? (Text.trim cs) = some v ↔ Wrapped cs v := by
  constructor
  · intro h
    obtain ⟨before, behind, hcs, hbefore, hbehind⟩ := Text.exists_trim cs
    obtain ⟨front, core, back, htrim, hfront, hback, hv⟩ := read?_iff.1 h
    refine ⟨before ++ front, core, back ++ behind, ?_, ?_, ?_, hv⟩
    · rw [htrim] at hcs
      simpa using hcs
    · exact List.forall_mem_append.2 ⟨hbefore, isBlank_of_spaces hfront⟩
    · exact List.forall_mem_append.2 ⟨isBlank_of_spaces hback, hbehind⟩
  · rintro ⟨front, core, back, rfl, hfront, hback, hv⟩
    rw [hv.trim_eq hfront hback, hv.isValue.1.read?]

/-- The blanks in front of a value are those in front of its first character. -/
theorem ValueText.takeWhile_eq (h : ValueText maxDepth core v) (hfront : ∀ c ∈ front, Text.isBlank c = true)
    (back : List Char) : (front ++ (core ++ back)).takeWhile Text.isBlank = front := by
  obtain ⟨hvalue, hne⟩ := h.isValue
  obtain ⟨c, more, rfl⟩ := List.exists_cons_of_ne_nil hne
  rw [List.takeWhile_append_of_pos hfront, List.cons_append,
    List.takeWhile_cons_of_neg (by simp [hvalue.starts c rfl]), List.append_nil]

/-- The blanks around the value of a JSON text are those of JSON. -/
theorem JsonText.spaces (hw : JsonText (front ++ (core ++ back)) w) (h : ValueText maxDepth core v)
    (hfront : ∀ c ∈ front, Text.isBlank c = true) (hback : ∀ c ∈ back, Text.isBlank c = true) :
    Spaces front ∧ Spaces back := by
  obtain ⟨front', core', back', heq, hfront', hback', hw⟩ := hw
  have hcore : core = core' := by
    rw [← h.trim_eq hfront hback, heq, hw.trim_eq (isBlank_of_spaces hfront') (isBlank_of_spaces hback')]
  subst hcore
  -- the first character of the value ends the blanks in both splits
  have hsame : front = front' := by
    rw [← h.takeWhile_eq hfront back, heq, hw.takeWhile_eq (isBlank_of_spaces hfront') back']
  subst hsame
  have hbacks : back = back' := List.append_cancel_left (List.append_cancel_left heq)
  subst hbacks
  exact ⟨hfront', hback'⟩

/-- **A text is a JSON text exactly when it is accepted and its blanks are those of JSON.** -/
theorem jsonText_iff : JsonText cs v ↔ Wrapped cs v ∧ ¬ Foreign cs := by
  constructor
  · intro h
    refine ⟨?_, ?_⟩
    · obtain ⟨front, core, back, rfl, hfront, hback, hv⟩ := h
      exact ⟨front, core, back, rfl, isBlank_of_spaces hfront, isBlank_of_spaces hback, hv⟩
    · rintro ⟨front, core, back, w, rfl, hfront, hback, hw, hforeign⟩
      exact hforeign (h.spaces hw hfront hback)
  · rintro ⟨⟨front, core, back, rfl, hfront, hback, hv⟩, hforeign⟩
    have hspaces : Spaces front ∧ Spaces back := by
      by_contra hnot
      exact hforeign ⟨front, core, back, v, rfl, hfront, hback, hv, hnot⟩
    exact ⟨front, core, back, rfl, hspaces.1, hspaces.2, hv⟩

end Json

/-! ## Literals -/

namespace Token

variable {body : List Char}

/-- Every backtick directly follows a backslash, and the last character is no backslash. -/
structure Escaped (body : List Char) : Prop where
  ticks : ∀ front back, body = front ++ '`' :: back → front.getLast? = some '\\'
  ends : body.getLast? ≠ some '\\'

/-- A backslash and a backtick stand for a backtick. -/
def unescape : List Char → List Char
  | '\\' :: '`' :: cs => '`' :: unescape cs
  | c :: cs => c :: unescape cs
  | [] => []

theorem Escaped.behind (front : List Char) (h : Escaped (front ++ body)) (hhead : body.head? ≠ some '`') :
    Escaped body where
  ticks := by
    rintro before back rfl
    have hne : before ≠ [] := by
      rintro rfl
      exact hhead rfl
    have hlast := h.ticks (front ++ before) back (by simp)
    rwa [List.getLast?_append_of_ne_nil _ hne] at hlast
  ends := by
    intro hlast
    have hne : body ≠ [] := by
      rintro rfl
      cases hlast
    exact h.ends (by rwa [List.getLast?_append_of_ne_nil _ hne])

/-- The text between the backticks of a literal is what its escapes stand for. -/
theorem scanLiteral_escaped (h : Escaped body) (rest : List Char) :
    scanLiteral (body ++ '`' :: rest) = some (unescape body, body.length + 1) := by
  fun_induction unescape body with
  | case1 cs ih =>
    have hhead : cs.head? ≠ some '`' := by
      intro hhead
      obtain ⟨more, rfl⟩ := List.head?_eq_some_iff.1 hhead
      exact absurd (h.ticks ['\\', '`'] more rfl) (by decide)
    have hread := ih (h.behind ['\\', '`'] hhead)
    simp only [List.cons_append, scanLiteral, hread, Option.map_some, List.length_cons]
  | case2 c cs hescape ih =>
    have hcs : ∀ more, c = '\\' → cs = '`' :: more → False := hescape
    have hhead : cs.head? ≠ some '`' := by
      intro hhead
      obtain ⟨more, rfl⟩ := List.head?_eq_some_iff.1 hhead
      have hlast := h.ticks [c] more rfl
      cases hlast
      exact hcs more rfl rfl
    have hread := ih (h.behind [c] hhead)
    have htick : c ≠ '`' := by
      rintro rfl
      cases h.ticks [] cs rfl
    -- the backtick that closes the literal does not follow a backslash
    have hclosing : ∀ more, c = '\\' → cs ++ '`' :: rest = '`' :: more → False := by
      rintro more rfl heq
      cases cs with
      | nil => exact h.ends rfl
      | cons d cs =>
        cases heq
        exact hhead rfl
    rw [List.cons_append, scanLiteral]
    · rw [hread]
      rfl
    · exact htick
    · exact hclosing
  | case3 => rfl

/-- A literal is what is read between its backticks. -/
theorem scan_literal (h : Escaped body) (rest : List Char) : scan '`' (body ++ '`' :: rest) =
    match Json.read? (Text.trim (unescape body)) with
    | some v => .ok (literal v, body.length + 1)
    | none => refuse (.badLiteral (String.ofList (Text.trim (unescape body)))) := by
  unfold scan
  cases hread : Json.read? (Text.trim (unescape body)) <;> simp only [scanLiteral_escaped h rest, hread]

/-- A query that is a literal has this token, or is refused at its start. -/
theorem ofText_literal (h : Escaped body) :
    (TokenRow.ofText (String.ofList ('`' :: (body ++ ['`'])))).map TokenRow.tokens =
      match Json.read? (Text.trim (unescape body)) with
      | some v => .ok [literal v]
      | none => .error ⟨.badLiteral (String.ofList (Text.trim (unescape body))), .start⟩ := by
  rw [TokenRow.ofText, String.toList_ofList, TokenRow.scanFrom, if_neg (by decide), scan_literal h []]
  cases Json.read? (Text.trim (unescape body)) with
  | none => rfl
  | some v =>
    have hdrop : (body ++ ['`']).drop (body.length + 1) = [] := List.drop_eq_nil_of_le (by simp)
    simp only [hdrop, TokenRow.scanFrom]
    rfl

end Token

/-! ## Documents -/

variable {reasons : Reasons}

/-- A search with the standard functions fails only on payloads. -/
theorem Query.payloadFault_of_search {source : String} {q : Query}
    (h : (Engine.standard reasons).compile source = .ok q) {document : Json} {f : Failure}
    (hf : (q.search document).result = .error f) : PayloadFault f := by
  have hregistry : q.registry = Library.functions reasons true := by
    obtain ⟨_, _, rfl⟩ := Engine.compile_ok.1 h
    rfl
  have hfails := Expr.fails_of_eval hregistry (Query.checked_of_compile h) document
  unfold Query.search Traced.absorb at hf
  split at hf
  · cases hf
  · rename_i g hresult
    split at hf
    · rename_i hhard
      rw [hresult] at hf
      cases hf
      rcases hfails f hresult with (_ | _ | ⟨_, _, _, _, _, _, hfault⟩) | ⟨rfl, _⟩
      · cases hhard
      · cases hhard
      · exact hfault
      · cases hhard
    · cases hf

theorem head?_append {lead : String} {c : Char} (h : lead.toList.head? = some c) (reason : String) :
    (lead ++ reason).toList.head? = some c := by
  rw [String.toList_append, List.head?_append, h, Option.some_or]

/-- What is wrong with a payload is not worded like what is wrong with a document. -/
theorem PayloadFault.message_ne {f : Failure} (h : PayloadFault f) (reason : String) :
    f.message ≠ "Invalid JSON document: " ++ reason := by
  have hcapital : ("Invalid JSON document: " ++ reason).toList.head? = some 'I' := head?_append (by decide) reason
  intro heq
  rw [← heq] at hcapital
  cases h with
  | base64 own | json own =>
    cases (head?_append (c := 'i') (by decide) own).symm.trans hcapital
  | archive own => cases (head?_append (c := 'd') (by decide) own).symm.trans hcapital

namespace CommandLine

theorem refuse_injective {m m' : String} (h : refuse m = refuse m') : m = m' := by
  have hlines : m ++ "\n" = m' ++ "\n" := congrArg Outcome.stderr h
  exact (String.append_left_inj _).1 hlines

/-- Only an input that is no document is refused as one. -/
theorem answer_iff {source text : String} {q : Query} {input : ByteArray}
    (h : (Engine.standard reasons).compile source = .ok q) (hutf8 : String.fromUTF8? input = some text) :
    answer reasons q input =
        refuse ("Invalid JSON document: " ++ reasons.json (String.ofList (Text.trim text.toList))) ↔
      Json.read? (Text.trim text.toList) = none := by
  have hdocument : document reasons input = match Json.read? (Text.trim text.toList) with
      | some v => .ok v
      | none => .error
        (refuse ("Invalid JSON document: " ++ reasons.json (String.ofList (Text.trim text.toList)))) := by
    cases hread : Json.read? (Text.trim text.toList) <;> simp only [document, hutf8, hread]
  unfold answer
  rw [hdocument]
  cases hread : Json.read? (Text.trim text.toList) with
  | none => simp
  | some v =>
    simp only [reduceCtorEq, iff_false]
    cases hresult : (q.search v).result with
    | ok w => simp [refuse]
    | error f =>
      exact fun hrefused => (Query.payloadFault_of_search h hresult).message_ne _ (refuse_injective hrefused)

end CommandLine

/-! ## Both -/

theorem not_wrapped_iff {cs : List Char} : Json.read? (Text.trim cs) = none ↔ ∀ v, ¬ Json.Wrapped cs v := by
  simp only [← Json.read?_trim_iff, Option.eq_none_iff_forall_ne_some, ne_eq]

/-- **What is accepted as JSON.**  A literal is accepted, for the value that it writes, exactly when what stands
between its backticks is a value between blanks, else it is refused where it starts; an input is refused as a
document exactly when it is no such text, with the reason that is given for it.  These are the JSON texts, and the
texts with other blanks around the value. -/
theorem literals_and_documents {body : List Char} (hbody : Token.Escaped body) {source text : String} {q : Query}
    {input : ByteArray} (hcompile : (Engine.standard reasons).compile source = .ok q)
    (hutf8 : String.fromUTF8? input = some text) (args : List String) :
    (∀ v, (TokenRow.ofText (String.ofList ('`' :: (body ++ ['`'])))).map TokenRow.tokens = .ok [.literal v] ↔
      Json.Wrapped (Token.unescape body) v) ∧
    ((TokenRow.ofText (String.ofList ('`' :: (body ++ ['`'])))).map TokenRow.tokens =
        .error ⟨.badLiteral (String.ofList (Text.trim (Token.unescape body))), .start⟩ ↔
      ∀ v, ¬ Json.Wrapped (Token.unescape body) v) ∧
    (CommandLine.run reasons (source :: args) input = CommandLine.refuse
        ("Invalid JSON document: " ++ reasons.json (String.ofList (Text.trim text.toList))) ↔
      ∀ v, ¬ Json.Wrapped text.toList v) ∧
    (∀ cs v, Json.JsonText cs v ↔ Json.Wrapped cs v ∧ ¬ Json.Foreign cs) := by
  rw [Token.ofText_literal hbody]
  refine ⟨fun v => ?_, ?_, ?_, fun cs v => Json.jsonText_iff⟩
  · rw [← Json.read?_trim_iff]
    cases Json.read? (Text.trim (Token.unescape body)) <;> simp
  · rw [← not_wrapped_iff]
    cases Json.read? (Text.trim (Token.unescape body)) <;> simp
  · have hrun : CommandLine.run reasons (source :: args) input = CommandLine.answer reasons q input := by
      simp only [CommandLine.run, CommandLine.query, hcompile]
    rw [hrun, CommandLine.answer_iff hcompile hutf8, not_wrapped_iff]

theorem fromUTF8?_toUTF8 (s : String) : String.fromUTF8? s.toUTF8 = some s := by
  simp only [String.fromUTF8?, String.toUTF8_eq_toByteArray, dif_pos s.isValidUTF8]
  rfl

/-- A one behind a no-break space is accepted as a literal and as a document, and is no JSON text. -/
theorem literals_and_documents_no_break :
    let one := Json.number (.integer 1 (by decide))
    let text := String.ofList ['\xa0', '1']
    Token.Escaped ['\xa0', '1'] ∧ (∃ q, (Engine.standard .plain).compile "@" = .ok q) ∧
      String.fromUTF8? text.toUTF8 = some text ∧
      (TokenRow.ofText (String.ofList ['`', '\xa0', '1', '`'])).map TokenRow.tokens = .ok [.literal one] ∧
      CommandLine.run .plain ["@"] text.toUTF8 ≠
        CommandLine.refuse "Invalid JSON document: not a JSON text" ∧
      ∀ w, ¬ Json.JsonText ['\xa0', '1'] w := by
  intro one text
  have hescaped : Token.Escaped ['\xa0', '1'] := by
    refine ⟨fun front back h => ?_, by decide⟩
    have hmem : '`' ∈ ['\xa0', '1'] := by
      rw [h]
      simp
    exact absurd hmem (by decide)
  have hnumber : Json.ofParts? false ['1'] [] 0 true = some (.integer 1 (by decide)) := by decide +kernel
  have hdigits : Json.IsDigits ['1'] := ⟨by decide, List.forall_mem_singleton.2 rfl⟩
  have hone : Json.ValueText Json.maxDepth ['1'] one :=
    .inl (.number _ _ (.bare _ _ (.mk ['1'] [] [] [] 0 _ hdigits (by decide) .none .none hnumber)))
  have hblank : ∀ c ∈ ['\xa0'], Text.isBlank c = true := List.forall_mem_singleton.2 rfl
  have hwrapped : Json.Wrapped ['\xa0', '1'] one := ⟨['\xa0'], ['1'], [], rfl, hblank, List.forall_mem_nil _, hone⟩
  have hforeign : Json.Foreign ['\xa0', '1'] :=
    ⟨['\xa0'], ['1'], [], one, rfl, hblank, List.forall_mem_nil _, hone, fun h =>
      absurd (h.1 _ (List.mem_singleton_self _)) (by decide)⟩
  have hcompile : (Engine.standard .plain).compile "@" = .ok ⟨"@", .current, Library.functions .plain true⟩ := by
    cbv
  obtain ⟨hliteral, -, hdocument, hjson⟩ := literals_and_documents hescaped hcompile (fromUTF8?_toUTF8 text) []
  refine ⟨hescaped, ⟨_, hcompile⟩, fromUTF8?_toUTF8 text, (hliteral one).2 hwrapped, fun hrefused => ?_,
    fun w hw => ((hjson _ w).1 hw).2 hforeign⟩
  refine hdocument.1 hrefused one ?_
  rw [String.toList_ofList]
  exact hwrapped

end JsonQuery
