import JsonQuery.Unicode.Recent

/-!
# Quoted text

* `Text.quote` — a text between double quotes, as logs show it: quotes and backslashes are escaped,
  and so is every character that would not show or would change the look of the one before it.
-/

namespace JsonQuery.Text

/-- The code point of a character in hexadecimal, in braces. -/
def escapeCode (c : Char) : List Char := ['\\', 'u', '{'] ++ Nat.toDigits 16 c.toNat ++ ['}']

/-- One character of a quoted text. -/
def quoteChar (c : Char) : List Char :=
  if c = '\x00' then ['\\', '0']
  else if c = '\t' then ['\\', 't']
  else if c = '\r' then ['\\', 'r']
  else if c = '\n' then ['\\', 'n']
  else if c = '"' ∨ c = '\\' then ['\\', c]
  else if Unicode.Recent.graphemeExtend.contains c || !Unicode.Recent.isPrintable c then escapeCode c
  else [c]

/-- A text between double quotes. -/
def quote (s : String) : String := String.ofList ('"' :: s.toList.flatMap quoteChar ++ ['"'])

end JsonQuery.Text
