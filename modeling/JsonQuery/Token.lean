import JsonQuery.Json.Writer

/-!
# Tokens of a query

* `Token` — the words and signs of a query.
* `Token.text` — a token as error messages name it; `Token.describe` also names the end.
* `Token.power` — how strongly a token binds what stands to its left.
-/

namespace JsonQuery

/-- A word or sign of a query. -/
inductive Token where
  | identifier (name : String)
  | quoted (name : String)
  | raw (text : String)
  | literal (value : Json)
  | number (value : Int64)
  | current
  | dot
  | star
  | openBracket
  | flatten
  | filter
  | closeBracket
  | openBrace
  | closeBrace
  | openParen
  | closeParen
  | comma
  | colon
  | pipe
  | or
  | and
  | ampersand
  | not
  | eq
  | ne
  | lt
  | le
  | gt
  | ge
  | resembles

namespace Token

/-- How strongly a token binds what stands to its left; zero if it cannot follow an operand (`lbp`).
-/
def power : Token → Nat
  | pipe => 1
  | or => 2
  | and => 3
  | eq | ne | lt | le | gt | ge | resembles => 5
  | flatten => 9
  | star => 20
  | filter => 21
  | dot => 40
  | not => 45
  | openBrace => 50
  | openBracket => 55
  | openParen => 60
  | _ => 0

/-- A token as error messages name it. -/
def text : Token → String
  | identifier name => "identifier '" ++ name ++ "'"
  | quoted name => "quoted identifier \"" ++ name ++ "\""
  | raw s => "raw string '" ++ s ++ "'"
  | literal v => "literal `" ++ v.compact ++ "`"
  | number n => "number " ++ String.ofList (Text.writeInt n.toInt)
  | current => "'@'"
  | dot => "'.'"
  | star => "'*'"
  | openBracket => "'['"
  | flatten => "'[]'"
  | filter => "'[?'"
  | closeBracket => "']'"
  | openBrace => "'\x7b'"
  | closeBrace => "'\x7d'"
  | openParen => "'('"
  | closeParen => "')'"
  | comma => "','"
  | colon => "':'"
  | pipe => "'|'"
  | or => "'||'"
  | and => "'&&'"
  | ampersand => "'&'"
  | not => "'!'"
  | eq => "'=='"
  | ne => "'!='"
  | lt => "'<'"
  | le => "'<='"
  | gt => "'>'"
  | ge => "'>='"
  | resembles => "'=~'"

/-- A token, or the end of the query, as error messages name it. -/
def describe : Option Token → String
  | some t => t.text
  | none => "end of expression"

/-- The binding power of what comes next; the end binds nothing. -/
def nextPower (ts : List Token) : Nat := (ts.head?.map power).getD 0

end Token

end JsonQuery
