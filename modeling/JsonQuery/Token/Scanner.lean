import JsonQuery.Json.Reader
import JsonQuery.ParseError
import JsonQuery.Text.Blank

/-!
# From text to tokens

* `Token.scan` — the token that starts with a given character, and how many further characters it
  takes.  A fault says how many characters of the token stand in front of it.
* `Token.Placed`, `TokenRow` — the tokens of a text with their places, and the place of the end.
* `TokenRow.ofText` — scans a whole text.

Scanning a token looks at characters only; places are found by walking over what was taken.
-/

namespace JsonQuery

namespace Token

/-- A fault, and the number of characters between the start of the token and its place. -/
structure Fault where
  cause : ParseError.Cause
  offset : Nat

/-- What scanning yields: a value and the number of characters taken behind the first. -/
abbrev Scan (α : Type) := Except Fault (α × Nat)

/-- A fault at the start of the token. -/
def refuse {α : Type} (cause : ParseError.Cause) : Except Fault α := .error ⟨cause, 0⟩

/-! ## Names and numbers -/

/-- The characters that start a name. -/
def isNameStart (c : Char) : Bool :=
  ('a' ≤ c && c ≤ 'z') || ('A' ≤ c && c ≤ 'Z') || c == '_'

/-- The characters that go on in a name. -/
def isNamePart (c : Char) : Bool := isNameStart c || Text.isDigit c

/-- A name that starts with `c` (`identifier`). -/
def scanName (c : Char) (cs : List Char) : Token × Nat :=
  let more := cs.takeWhile isNamePart
  (identifier (String.ofList (c :: more)), more.length)

/-- The number of a numeral, if 64 bits with sign hold it. -/
def int64? (i : Int) : Option Int64 :=
  if -Int.pow 2 63 ≤ i ∧ i < Int.pow 2 63 then some (Int64.ofInt i) else none

/-- A number that starts with `c`, a digit or a minus sign (`number`). -/
def scanNumber (c : Char) (cs : List Char) : Scan Token :=
  let more := cs.takeWhile Text.isDigit
  if c = '-' ∧ more = [] then .error ⟨.missingDigits, 1⟩
  else
    let value : Int := if c = '-' then -(Text.ofDigits more : Int) else Text.ofDigits (c :: more)
    match int64? value with
    | some n => .ok (number n, more.length)
    | none => refuse (.numberOutOfRange (String.ofList (c :: more)))

/-! ## Quoted text -/

/-- A quoted name behind its opening quote; `taken` counts the characters before `cs`
(`quoted_string`). -/
def scanQuoted (taken : Nat) : List Char → Except Fault (List Char × Nat)
  | [] => refuse .unterminatedName
  | c :: cs =>
    if c = '"' then .ok ([], taken + 1)
    else if c = '\\' then
      match Text.Escape.read cs with
      | .error fault => .error ⟨.badEscape fault, taken⟩
      | .ok (d, n) =>
        match scanQuoted (taken + 1 + n) (cs.drop n) with
        | .ok (ds, total) => .ok (d :: ds, total)
        | .error fault => .error fault
    else
      match scanQuoted (taken + 1) cs with
      | .ok (ds, total) => .ok (c :: ds, total)
      | .error fault => .error fault
termination_by cs => cs.length
decreasing_by all_goals simp_wf; try omega

/-- A raw string behind its opening quote: only a quote and a backslash can be escaped, and any
other backslash stands for itself (`raw_string`). -/
def scanRaw : List Char → Option (List Char × Nat)
  | [] => none
  | '\'' :: _ => some ([], 1)
  | '\\' :: '\'' :: cs => (scanRaw cs).map fun (ds, n) => ('\'' :: ds, n + 2)
  | '\\' :: '\\' :: cs => (scanRaw cs).map fun (ds, n) => ('\\' :: ds, n + 2)
  | c :: cs => (scanRaw cs).map fun (ds, n) => (c :: ds, n + 1)

/-- The JSON text of a literal behind its opening backtick: only a backtick can be escaped
(`literal`). -/
def scanLiteral : List Char → Option (List Char × Nat)
  | [] => none
  | '`' :: _ => some ([], 1)
  | '\\' :: '`' :: cs => (scanLiteral cs).map fun (ds, n) => ('`' :: ds, n + 2)
  | c :: cs => (scanLiteral cs).map fun (ds, n) => (c :: ds, n + 1)

/-! ## One token -/

/-- One of two tokens: `long` when `next` follows, else `short` (`alt`). -/
def scanPair (next : Char) (long short : Token) (cs : List Char) : Token × Nat :=
  if cs.head? = some next then (long, 1) else (short, 0)

/-- The token that starts with `c`, where `cs` follows. -/
def scan (c : Char) (cs : List Char) : Scan Token :=
  match c with
  | '.' => .ok (dot, 0)
  | '*' => .ok (star, 0)
  | '@' => .ok (current, 0)
  | ',' => .ok (comma, 0)
  | ':' => .ok (colon, 0)
  | ']' => .ok (closeBracket, 0)
  | '{' => .ok (openBrace, 0)
  | '}' => .ok (closeBrace, 0)
  | '(' => .ok (openParen, 0)
  | ')' => .ok (closeParen, 0)
  | '[' =>
    match cs.head? with
    | some ']' => .ok (flatten, 1)
    | some '?' => .ok (filter, 1)
    | _ => .ok (openBracket, 0)
  | '|' => .ok (scanPair '|' or pipe cs)
  | '&' => .ok (scanPair '&' and ampersand cs)
  | '!' => .ok (scanPair '=' ne not cs)
  | '<' => .ok (scanPair '=' le lt cs)
  | '>' => .ok (scanPair '=' ge gt cs)
  | '=' =>
    match cs.head? with
    | some '=' => .ok (eq, 1)
    | some '~' => .ok (resembles, 1)
    | _ => refuse .loneEqualSign
  | '"' =>
    match scanQuoted 1 cs with
    | .ok (name, total) => .ok (quoted (String.ofList name), total - 1)
    | .error fault => .error fault
  | '\'' =>
    match scanRaw cs with
    | some (s, n) => .ok (raw (String.ofList s), n)
    | none => refuse .unterminatedRaw
  | '`' =>
    match scanLiteral cs with
    | none => refuse .unterminatedLiteral
    | some (body, n) =>
      match Json.read? (Text.trim body) with
      | some v => .ok (literal v, n)
      | none => refuse (.badLiteral (String.ofList (Text.trim body)))
  | c =>
    if c = '-' ∨ Text.isDigit c then scanNumber c cs
    else if isNameStart c then .ok (scanName c cs)
    else refuse (.unexpectedCharacter c)

end Token

/-! ## All tokens -/

/-- A token and the place of its first character. -/
structure PlacedToken where
  token : Token
  position : Position

/-- The tokens of a text with their places, and the place of the end of the text. -/
structure TokenRow where
  placed : List PlacedToken
  finish : Position

namespace TokenRow

/-- The tokens without their places. -/
def tokens (row : TokenRow) : List Token := row.placed.map PlacedToken.token

/-- The place of the token with which the last `remaining` tokens start. -/
def place (row : TokenRow) (remaining : Nat) : Position :=
  match row.placed.drop (row.placed.length - remaining) with
  | t :: _ => t.position
  | [] => row.finish

/-- Scans a text from a place on. -/
def scanFrom (p : Position) : List Char → Except ParseError TokenRow
  | [] => .ok ⟨[], p⟩
  | c :: cs =>
    if Json.isSpace c then scanFrom (p.step c cs.head?) cs
    else
      match Token.scan c cs with
      | .error fault => .error ⟨fault.cause, p.along fault.offset (c :: cs)⟩
      | .ok (t, n) =>
        match scanFrom (p.along (n + 1) (c :: cs)) (cs.drop n) with
        | .ok row => .ok { row with placed := ⟨t, p⟩ :: row.placed }
        | .error e => .error e
termination_by cs => cs.length
decreasing_by all_goals simp_wf; try omega

/-- The tokens of a text (`tokenize`). -/
def ofText (text : String) : Except ParseError TokenRow := scanFrom .start text.toList

end TokenRow

end JsonQuery
