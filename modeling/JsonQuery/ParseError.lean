import JsonQuery.Arity
import JsonQuery.Reasons
import JsonQuery.Text.Escape
import JsonQuery.Text.Position
import JsonQuery.Token

/-!
# What can be wrong with a query text

* `ParseError.Cause` — the fault; `ParseError.Cause.message` — its wording, which for a text inside the query
  that cannot be read ends with the reason.
* `ParseError` — a fault and its place.
-/

namespace JsonQuery

/-- What can be wrong with a query text. -/
inductive ParseError.Cause where
  | loneEqualSign
  | unexpectedCharacter (c : Char)
  | missingDigits
  | numberOutOfRange (text : String)
  | unterminatedName
  | unterminatedRaw
  | unterminatedLiteral
  | badEscape (fault : Text.Escape.Fault)
  | badLiteral (text : String)
  | tooDeep (limit : Nat)
  | unexpected (found : Option Token)
  | expected (wanted : Token) (found : Option Token)
  | expectedCommaOr (close : Token) (found : Option Token)
  | expectedKey (found : Option Token)
  | expectedBracketItem (found : Option Token)
  | expectedPattern (found : Option Token)
  | badPattern (text : String)
  | afterDot (found : Option Token)
  | afterProjection (found : Option Token)
  | inSlice (found : Option Token)
  | zeroStep
  | quotedFunction
  | unknownFunction (name : String)
  | wrongCount (name : String) (arity : Arity) (count : Nat)

/-- The wording of a fault in an escape. -/
def Text.Escape.Fault.message : Text.Escape.Fault → String
  | .unknown => "Invalid escape sequence"
  | .badUnit => "Invalid \\u escape"
  | .missingLow => "Expected low surrogate after high surrogate"
  | .badLow => "Invalid low surrogate"
  | .loneLow => "Unexpected low surrogate"

/-- The wording of a fault. -/
def ParseError.Cause.message (reasons : Reasons) : ParseError.Cause → String
  | .loneEqualSign => "Expected '==' or '=~'"
  | .unexpectedCharacter c => "Unexpected character '" ++ c.toString ++ "'"
  | .missingDigits => "Expected digits after '-'"
  | .numberOutOfRange text => "Invalid number '" ++ text ++ "'"
  | .unterminatedName => "Unterminated quoted identifier"
  | .unterminatedRaw => "Unterminated raw string"
  | .unterminatedLiteral => "Unterminated JSON literal"
  | .badEscape fault => fault.message
  | .badLiteral text => "Invalid JSON literal: " ++ reasons.json text
  | .tooDeep limit => "Expression nesting exceeds the maximum depth of " ++ toString limit
  | .unexpected found => "Unexpected " ++ Token.describe found
  | .expected wanted found => "Expected " ++ wanted.text ++ ", found " ++ Token.describe found
  | .expectedCommaOr close found =>
    "Expected ',' or " ++ close.text ++ ", found " ++ Token.describe found
  | .expectedKey found => "Expected a key name, found " ++ Token.describe found
  | .expectedBracketItem found =>
    "Expected a number, ':' or '*', found " ++ Token.describe found
  | .expectedPattern found =>
    "Expected a raw string pattern after '=~', found " ++ Token.describe found
  | .badPattern text => "Invalid regex: " ++ reasons.pattern text
  | .afterDot found =>
    "Expected an identifier, '*', '[' or '\x7b' after '.', found " ++ Token.describe found
  | .afterProjection found => "Unexpected " ++ Token.describe found ++ " after projection"
  | .inSlice found => "Unexpected " ++ Token.describe found ++ " in slice"
  | .zeroStep => "Slice step cannot be 0"
  | .quotedFunction => "Quoted identifiers cannot name functions"
  | .unknownFunction name => "Unknown function: " ++ name
  | .wrongCount name arity count => arity.mismatch name count

/-- A fault in a query text, and its place. -/
structure ParseError where
  cause : ParseError.Cause
  position : Position

namespace ParseError

/-- The wording without the place. -/
def message (reasons : Reasons) (e : ParseError) : String := e.cause.message reasons

/-- The wording with the place. -/
def describe (reasons : Reasons) (e : ParseError) : String :=
  e.message reasons ++ " (line " ++ toString e.position.line ++ ", column " ++
    toString e.position.column ++ ")"

end ParseError

end JsonQuery
