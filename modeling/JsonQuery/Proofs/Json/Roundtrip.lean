import JsonQuery.Json.Writer
import JsonQuery.Proofs.Decimal.Numeral
import JsonQuery.Proofs.Eval.Calls
import JsonQuery.Proofs.Json.Grammar
import JsonQuery.Proofs.Json.Members
import JsonQuery.Proofs.Token.Written

/-!
# JSON text, written and read back

* `Json.nesting`, `Json.IntegersOnly` — how deep arrays and objects nest, and the values without doubles.
* `Json.bodyText_written`, `Json.numberText_writeInt`, `Json.separated_written` — what the grammar derives for
  strings, integers and rows of items as they are written.
* `Json.valueText_write` — the grammar derives a value for its text.
* `Json.parse?_compact` — so the text of a value is read as the value.
* `Expr.json_to_string` — `json` undoes `to_string`.
-/

namespace JsonQuery

namespace Json

mutual

/-- How deep arrays and objects nest. -/
def nesting : Json → Nat
  | .array items => 1 + nestingItems items
  | .object members => 1 + nestingMembers members
  | _ => 0

/-- The greatest nesting of these values. -/
def nestingItems : List Json → Nat
  | [] => 0
  | v :: rest => max (nesting v) (nestingItems rest)

/-- The greatest nesting of the values of these members. -/
def nestingMembers : List (String × Json) → Nat
  | [] => 0
  | (_, v) :: rest => max (nesting v) (nestingMembers rest)

end

/-- The values in which all numbers are integers. -/
inductive IntegersOnly : Json → Prop where
  | null : IntegersOnly .null
  | bool (b : Bool) : IntegersOnly (.bool b)
  | integer (i : Int) (h : Number.InRange i) : IntegersOnly (.number (.integer i h))
  | string (s : String) : IntegersOnly (.string s)
  | array (items : List Json) (h : ∀ v ∈ items, IntegersOnly v) : IntegersOnly (.array items)
  | object (members : Members) (h : ∀ m ∈ members, IntegersOnly m.2) : IntegersOnly (.object members)

variable {α : Type} {c close : Char} {cs ds : List Char} {v : Json} {items : List Json} {members : Members}
  {depth n : Nat}

theorem nesting_array : nesting (.array items) ≤ depth + 1 ↔ ∀ v ∈ items, v.nesting ≤ depth := by
  have hitems : nestingItems items ≤ depth ↔ ∀ v ∈ items, v.nesting ≤ depth := by
    induction items with
    | nil => simp [nestingItems]
    | cons v rest ih => rw [nestingItems, Nat.max_le, ih, List.forall_mem_cons]
  rw [nesting, Nat.add_comm, Nat.add_le_add_iff_right, hitems]

theorem nesting_object : nesting (.object members) ≤ depth + 1 ↔ ∀ m ∈ members, m.2.nesting ≤ depth := by
  have hmembers : nestingMembers members ≤ depth ↔ ∀ m ∈ members, m.2.nesting ≤ depth := by
    induction members with
    | nil => simp [nestingMembers]
    | cons m rest ih =>
      obtain ⟨key, v⟩ := m
      rw [nestingMembers, Nat.max_le, ih, List.forall_mem_cons]
  rw [nesting, Nat.add_comm, Nat.add_le_add_iff_right, hmembers]

/-! ## Strings -/

/-- The grammar derives a character for the way it is written in a string. -/
theorem BodyText.written (h : BodyText cs ds) : BodyText (escapeChar c ++ cs) (c :: ds) := by
  obtain ⟨hplain, hquote, hback⟩ | ⟨escape, hescape, hreads⟩ := Token.escapeChar_cases c
  · have hcontrol : 0x20 ≤ c.toNat := by
      by_contra hlt
      unfold escapeChar at hplain
      split_ifs at hplain <;> simp_all
    rw [hplain]
    exact .plain c cs ds hquote hback hcontrol h
  · obtain ⟨taken, rest, htaken, hlength, htext⟩ := escape_iff.1 (hreads [])
    rw [List.append_nil] at htaken
    obtain rfl : escape = taken := by
      have hrest : rest = [] := List.length_eq_zero_iff.1 (by rw [htaken, List.length_append] at hlength; omega)
      rw [htaken, hrest, List.append_nil]
    rw [hescape]
    exact .escape escape c cs ds htext h

theorem bodyText_written (cs : List Char) : BodyText (cs.flatMap escapeChar) cs := by
  induction cs with
  | nil => exact .nil
  | cons c cs ih => exact ih.written

/-! ## Integers -/

theorem magnitudeText_writeNat {negative : Bool} {i : Number} (hn : n < Nat.pow 2 64)
    (h : integral? negative n = some i) : MagnitudeText negative (Text.writeNat n) i := by
  have hparts : ofParts? negative (Text.writeNat n) [] 0 (([] : List Char) ++ [] = []) = some i := by
    rw [← h, ofParts?, Text.ofDigits_writeNat, if_pos ⟨by simp, hn⟩]
  have htext : MagnitudeText negative (Text.writeNat n ++ ([] ++ [])) i :=
    .mk _ [] [] [] 0 i ⟨Text.writeNat_ne_nil n, fun _ => Text.isDigit_of_mem_writeNat⟩ Text.writeNat_zero .none .none
      hparts
  simpa using htext

theorem integral?_of_int {negative : Bool} {i : Int} (hzero : (negative && n == 0) = false)
    (hi : (if negative then -(n : Int) else n) = i) (h : Number.InRange i) :
    integral? negative n = some (.integer i h) := by
  have hof : Number.ofInt? i = some (.integer i h) := dif_pos h
  rw [integral?, hzero, if_neg Bool.false_ne_true, hi, hof]

theorem numberText_writeInt {i : Int} (h : Number.InRange i) : NumberText (Text.writeInt i) (.integer i h) := by
  have hn : i.natAbs < Nat.pow 2 64 := by
    obtain ⟨hlow, hhigh⟩ := h
    simp only [Int.pow_eq, Nat.pow_eq] at *
    omega
  unfold Text.writeInt
  split_ifs with hneg
  · have hzero : (true && i.natAbs == 0) = false := by simp; omega
    have habs : (if true then -(i.natAbs : Int) else i.natAbs) = i := by rw [if_pos rfl]; omega
    exact .minus _ _ (magnitudeText_writeNat hn (integral?_of_int hzero habs h))
  · have habs : (if false then -(i.natAbs : Int) else i.natAbs) = i := by rw [if_neg Bool.false_ne_true]; omega
    exact .bare _ _ (magnitudeText_writeNat hn (integral?_of_int rfl habs h))

/-! ## Arrays and objects -/

/-- Items written one after another, with commas between them and a bracket at the end. -/
theorem separated_written {R : List Char → α → Prop} {text : α → List Char} {tail : List α → List Char}
    (hnil : tail [] = [close]) (hcons : ∀ a as, tail (a :: as) = ',' :: (text a ++ tail as)) (a : α) (as : List α)
    (h : ∀ b ∈ a :: as, R (text b) b) : ∃ body, text a ++ tail as = body ++ [close] ∧ Separated R body (a :: as) := by
  have hnone : Spaces [] := nofun
  induction as generalizing a with
  | nil =>
    exact ⟨_, by rw [hnil, List.nil_append, List.append_nil],
      .last [] (text a) [] a hnone (h a List.mem_cons_self) hnone⟩
  | cons b rest ih =>
    rw [List.forall_mem_cons] at h
    obtain ⟨body, hbody, hseparated⟩ := ih b h.2
    exact ⟨_, by simp [hcons, hbody], .more [] (text a) [] body a (b :: rest) hnone h.1 hnone hseparated⟩

/-- Members with unique keys are left as they are. -/
theorem setInOrder_self (h : (members.map Prod.fst).Nodup) : SetInOrder members members := by
  simpa only [setAll_self h] using setAll_inOrder members

theorem nestedText_array {R : List Char → Json → Prop} (h : ∀ v ∈ items, R (write v) v) :
    NestedText R (write (.array items)) (.array items) := by
  cases items with
  | nil => exact .array [] [] (.empty [] nofun)
  | cons v rest =>
    have hnil : writeItems [] = [']'] := rfl
    have htail : ∀ v rest, writeItems (v :: rest) = ',' :: (write v ++ writeItems rest) := fun _ _ => rfl
    obtain ⟨body, hbody, hseparated⟩ := separated_written hnil htail v rest h
    rw [write, hbody]
    exact .array body _ (.items body _ hseparated)

/-- A member as it is written. -/
def writeMember (m : String × Json) : List Char := writeString m.1 ++ ':' :: write m.2

theorem memberText_write {R : List Char → Json → Prop} {m : String × Json} (h : R (write m.2) m.2) :
    MemberText R (writeMember m) m := by
  have hmember := MemberText.mk _ _ [] [] _ m.2 (bodyText_written m.1.toList) nofun nofun h
  rw [String.ofList_toList] at hmember
  simpa [writeMember, writeString] using hmember

theorem nestedText_object {R : List Char → Json → Prop} (hkeys : (members.map Prod.fst).Nodup)
    (h : ∀ m ∈ members, R (write m.2) m.2) : NestedText R (write (.object members)) (.object members) := by
  have hself := setInOrder_self hkeys
  cases members with
  | nil => exact NestedText.object [] [] [] (.empty [] nofun) hself
  | cons m rest =>
    have hnil : writeMembers [] = ['}'] := rfl
    have htail : ∀ m rest, writeMembers (m :: rest) = ',' :: (writeMember m ++ writeMembers rest) :=
      fun _ _ => by simp [writeMembers, writeMember]
    obtain ⟨body, hbody, hseparated⟩ :=
      separated_written hnil htail m rest fun m hm => memberText_write (h m hm)
    have hwrite : write (.object (m :: rest)) = '{' :: (body ++ ['}']) := by
      rw [← hbody]
      simp [write, writeMember]
    rw [hwrite]
    exact NestedText.object body _ _ (.items body _ hseparated) hself

theorem ScalarText.value (h : ScalarText cs v) (depth : Nat) : ValueText depth cs v := by
  cases depth with
  | zero => exact h
  | succ depth => exact .inl h

/-- **The grammar derives a value for its text.** -/
theorem valueText_write (hintegers : v.IntegersOnly) (hkeys : v.KeysUnique) (hnesting : v.nesting ≤ depth) :
    ValueText depth (write v) v := by
  have hbelow : ∀ {k d}, 1 + k ≤ d → ∃ n, d = n + 1 :=
    fun h => Nat.exists_eq_add_of_le' (Nat.le_of_add_right_le h)
  -- what stands inside an array or an object has one level less to go
  induction hintegers generalizing depth with
  | null => exact ScalarText.null.value depth
  | bool b => cases b <;> exact ScalarText.value (by constructor) depth
  | integer i h => exact (ScalarText.number _ _ (numberText_writeInt h)).value depth
  | string s =>
    have htext := ScalarText.string _ _ (bodyText_written s.toList)
    rw [String.ofList_toList] at htext
    exact htext.value depth
  | array items _ ih =>
    obtain ⟨depth, rfl⟩ := hbelow hnesting
    have hitems := nesting_array.1 hnesting
    exact .inr (nestedText_array fun v hv => ih v hv (keysUnique_array.1 hkeys v hv) (hitems v hv))
  | object members _ ih =>
    obtain ⟨depth, rfl⟩ := hbelow hnesting
    have hmembers := nesting_object.1 hnesting
    obtain ⟨hnodup, hparts⟩ := keysUnique_object.1 hkeys
    exact .inr (nestedText_object hnodup fun m hm => ih m hm (hparts m hm) (hmembers m hm))

/-- **The text of a value is read as the value.** -/
theorem parse?_compact (hkeys : v.KeysUnique) (hintegers : v.IntegersOnly) (hnesting : v.nesting ≤ maxDepth) :
    parse? v.compact = some v := by
  rw [parse?, compact, String.toList_ofList]
  exact read?_iff.2 ⟨[], write v, [], by simp, List.forall_mem_nil _, List.forall_mem_nil _,
    valueText_write hintegers hkeys hnesting⟩

end Json

namespace Expr

variable {reasons : Reasons} {r : Registry} {d v : Json} {e : Expr}

/-- The text of a value that is no string. -/
theorem eval_toString (htoString : r.find? "to_string" = (Library.functions reasons false).find? "to_string")
    (h : (e.eval r d).result = .ok v) (hstring : ∀ s, v ≠ .string s) :
    ((Expr.call "to_string" [e]).eval r d).result = .ok (.string v.compact) := by
  have hfind : r.find? "to_string" = some ⟨"to_string", [], .fixed 1, Library.toText⟩ := htoString.trans rfl
  have hargument : Evaluates r d [e] [v] := .cons h .nil
  rw [eval_call_values hfind rfl hargument]
  cases v with
  | string s => exact absurd rfl (hstring s)
  | _ => rfl

/-- The value of a JSON text. -/
theorem eval_json {s : String} (hjson : r.find? "json" = (Library.functions reasons true).find? "json")
    (h : (e.eval r d).result = .ok (.string s)) (hparse : Json.parse? s = some v) :
    ((Expr.call "json" [e]).eval r d).result = .ok v := by
  have hfind : r.find? "json" = some ⟨"json", ["powertools_json"], .fixed 1, Library.json reasons⟩ := hjson.trans rfl
  have hargument : Evaluates r d [e] [.string s] := .cons h .nil
  rw [eval_call_values hfind rfl hargument]
  have hbody : (Library.json reasons [.value (.string s)]).result = .ok v := by
    have hread : Library.json reasons [.value (.string s)] = .ofExcept (Library.readJson reasons s) := rfl
    rw [hread, Library.readJson, hparse]
    rfl
  exact congrArg Eval.settle hbody

/-- **`json` undoes `to_string`.**  With the built-in functions of these names, the text of a value that is no
string, in which all numbers are integers and arrays and objects nest at most 127 deep, is read as that value:
with the same members in the same order, the same characters and the same integers. -/
theorem json_to_string (htoString : r.find? "to_string" = (Library.functions reasons false).find? "to_string")
    (hjson : r.find? "json" = (Library.functions reasons true).find? "json") (h : (e.eval r d).result = .ok v)
    (hstring : ∀ s, v ≠ .string s) (hkeys : v.KeysUnique) (hintegers : v.IntegersOnly) (hnesting : v.nesting ≤ 127) :
    ((Expr.call "json" [.call "to_string" [e]]).eval r d).result = .ok v :=
  eval_json hjson (eval_toString htoString h hstring) (Json.parse?_compact hkeys hintegers hnesting)

/-- An object whose keys are not in order, with quotes, a backslash, controls and characters beyond U+FFFF, and the
least and the greatest integer. -/
theorem json_to_string_nested :
    let r := Library.functions .plain true
    let low : Json := .number (.integer (-9223372036854775808) (by decide))
    let high : Json := .number (.integer 18446744073709551615 (by decide))
    let v : Json := .object [("z\"\\", .array [.string "\x00\x1f\n\t/é😀", .array [], .null]),
      ("a", .object [("low", low), ("high", high)])]
    r.find? "to_string" = (Library.functions .plain false).find? "to_string" ∧
    r.find? "json" = (Library.functions .plain true).find? "json" ∧ (Expr.current.eval r v).result = .ok v ∧
    (∀ s, v ≠ .string s) ∧ v.KeysUnique ∧ v.IntegersOnly ∧ v.nesting ≤ 127 ∧
      ((Expr.call "json" [.call "to_string" [.current]]).eval r v).result = .ok v := by
  intro r low high v
  have hstring : ∀ s, v ≠ .string s := by simp [v]
  have hkeys : v.KeysUnique := by simp [v, low, high, Json.KeysUnique, Json.KeysUniqueItems, Json.KeysUniqueMembers]
  have hintegers : v.IntegersOnly := by
    refine .object _ (List.forall_mem_cons.2 ⟨.array _ ?_, List.forall_mem_singleton.2 (.object _ ?_)⟩)
    · simp [Json.IntegersOnly.string, Json.IntegersOnly.array, Json.IntegersOnly.null]
    · simp [low, high, Json.IntegersOnly.integer]
  have hnesting : v.nesting ≤ 127 := by decide
  have htoString : r.find? "to_string" = (Library.functions .plain false).find? "to_string" := rfl
  have hjson : r.find? "json" = (Library.functions .plain true).find? "json" := rfl
  exact ⟨htoString, hjson, rfl, hstring, hkeys, hintegers, hnesting,
    json_to_string htoString hjson rfl hstring hkeys hintegers hnesting⟩

end Expr

end JsonQuery
