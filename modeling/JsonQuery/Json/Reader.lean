import JsonQuery.Json
import JsonQuery.Json.Numeral
import JsonQuery.Text.Escape

/-!
# JSON text, read

* `Json.read?` — the value of a JSON text: strict grammar, blanks between tokens being only space,
  tab, line feed and carriage return, nothing behind the value, and at most 127 nested arrays and
  objects.
* `Json.number?`, `Json.string?` — a number and a string at the start of a text.
* `Json.value?` — a value at the start of a text, with a given allowance of nesting.

Each reader returns what it has read and the rest of the text.
-/

namespace JsonQuery.Json

/-- The blanks of JSON text. -/
def isSpace (c : Char) : Bool := c == ' ' || c == '\t' || c == '\n' || c == '\r'

/-- The text without blanks at its start. -/
def skipSpace (cs : List Char) : List Char := cs.dropWhile isSpace

/-! ## Numbers -/

/-- The digits behind a point, if there is one; none stands for a point without digits. -/
def fraction? : List Char → Option (List Char × List Char)
  | '.' :: cs =>
    let (digits, rest) := Text.spanDigits cs
    if digits.isEmpty then none else some (digits, rest)
  | cs => some ([], cs)

/-- A number without its sign. -/
def magnitude? (negative : Bool) (cs : List Char) : Option (Number × List Char) := do
  let (whole, rest) := Text.spanDigits cs
  if whole.isEmpty || (whole.head? == some '0' && whole.length != 1) then none
  let (fraction, afterFraction) ← fraction? rest
  let (exponent, after) ← Text.readExponent? afterFraction
  -- with nothing behind the digits the numeral is that of an integer
  (ofParts? negative whole fraction exponent (after.length = rest.length)).map (·, after)

/-- A number at the start of a text. -/
def number? : List Char → Option (Number × List Char)
  | '-' :: cs => magnitude? true cs
  | cs => magnitude? false cs

/-! ## Strings -/

/-- The rest of a string behind its opening quote: the characters it stands for. -/
def stringBody? : List Char → Option (List Char × List Char)
  | [] => none
  | c :: cs =>
    if c = '"' then some ([], cs)
    else if c = '\\' then
      match Text.Escape.read cs with
      | .error _ => none
      | .ok (d, n) => (stringBody? (cs.drop n)).map fun (ds, rest) => (d :: ds, rest)
    else if c.toNat < 0x20 then none
    else (stringBody? cs).map fun (ds, rest) => (c :: ds, rest)
termination_by cs => cs.length
decreasing_by all_goals simp_wf; try omega

/-- A string at the start of a text. -/
def string? : List Char → Option (String × List Char)
  | '"' :: cs => (stringBody? cs).map fun (ds, rest) => (String.ofList ds, rest)
  | _ => none

/-! ## Values -/

/-- A value that is neither an array nor an object. -/
def scalar? : List Char → Option (Json × List Char)
  | 'n' :: 'u' :: 'l' :: 'l' :: rest => some (.null, rest)
  | 't' :: 'r' :: 'u' :: 'e' :: rest => some (.bool true, rest)
  | 'f' :: 'a' :: 'l' :: 's' :: 'e' :: rest => some (.bool false, rest)
  | '"' :: cs => (string? ('"' :: cs)).map fun (s, rest) => (.string s, rest)
  | cs => (number? cs).map fun (n, rest) => (.number n, rest)

/-- The items of an array up to its end, each read by `value?`. -/
def items? (value? : List Char → Option (Json × List Char)) (cs : List Char) :
    Option (List Json × List Char) :=
  match value? (skipSpace cs) with
  | none => none
  | some (v, after) =>
    match skipSpace after with
    | ']' :: rest => some ([v], rest)
    | ',' :: rest =>
      if rest.length < cs.length then
        (items? value? rest).map fun (vs, rest) => (v :: vs, rest)
      else none
    | _ => none
termination_by cs.length

/-- An array behind its opening bracket. -/
def array? (value? : List Char → Option (Json × List Char)) (cs : List Char) :
    Option (Json × List Char) :=
  match skipSpace cs with
  | ']' :: rest => some (.array [], rest)
  | _ => (items? value? cs).map fun (vs, rest) => (.array vs, rest)

/-- A key, a colon and a value. -/
def member? (value? : List Char → Option (Json × List Char)) (cs : List Char) :
    Option ((String × Json) × List Char) :=
  match string? (skipSpace cs) with
  | none => none
  | some (key, after) =>
    match skipSpace after with
    | ':' :: rest => (value? (skipSpace rest)).map fun (v, rest) => ((key, v), rest)
    | _ => none

/-- The members of an object up to its end. -/
def members? (value? : List Char → Option (Json × List Char)) (cs : List Char) :
    Option (Members × List Char) :=
  match member? value? cs with
  | none => none
  | some (m, after) =>
    match skipSpace after with
    | '}' :: rest => some ([m], rest)
    | ',' :: rest =>
      if rest.length < cs.length then
        (members? value? rest).map fun (ms, rest) => (m :: ms, rest)
      else none
    | _ => none
termination_by cs.length

/-- An object behind its opening brace; a repeated key keeps its first place and its last value. -/
def object? (value? : List Char → Option (Json × List Char)) (cs : List Char) :
    Option (Json × List Char) :=
  match skipSpace cs with
  | '}' :: rest => some (.object [], rest)
  | _ => (members? value? cs).map fun (ms, rest) => (ofMembers ms, rest)

/-- A value at the start of a text, with at most `depth` nested arrays and objects. -/
def value? : Nat → List Char → Option (Json × List Char)
  | 0, cs => scalar? cs
  | depth + 1, cs =>
    match cs with
    | '[' :: rest => array? (value? depth) rest
    | '{' :: rest => object? (value? depth) rest
    | cs => scalar? cs

/-- The deepest nesting of arrays and objects that is read. -/
def maxDepth : Nat := 127

/-- The value of a JSON text. -/
def read? (cs : List Char) : Option Json :=
  match value? maxDepth (skipSpace cs) with
  | some (v, rest) => if (skipSpace rest).isEmpty then some v else none
  | none => none

/-- The value of a JSON text. -/
def parse? (s : String) : Option Json := read? s.toList

end JsonQuery.Json
