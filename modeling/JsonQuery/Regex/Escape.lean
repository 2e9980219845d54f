import JsonQuery.Regex.Syntax
import JsonQuery.Text.Blank
import JsonQuery.Text.Units

/-!
# Escapes of patterns

* `Regex.skip` — passes over blanks and comments where a pattern may contain them.
* `Regex.braced?` — what stands between braces.
* `Regex.Primitive` — a character, a place or a class; `Regex.escape?` reads what follows a
  backslash.

Every reader returns what it has read and the rest of the text.
-/

namespace JsonQuery.Regex

/-! ## Blanks and comments -/

/-- Passes over blanks and comments; a comment goes from `#` to the end of its line. -/
def skipFrom (inComment : Bool) : List Char → List Char
  | [] => []
  | c :: cs =>
    if inComment then skipFrom (c != '\n') cs
    else if Text.isBlank c then skipFrom false cs
    else if c = '#' then skipFrom true cs
    else c :: cs

/-- Passes over blanks and comments if `blanks` says that they do not count. -/
def skip (blanks : Bool) (cs : List Char) : List Char := if blanks then skipFrom false cs else cs

theorem length_skipFrom_le (b : Bool) (cs : List Char) : (skipFrom b cs).length ≤ cs.length := by
  induction cs generalizing b with
  | nil => simp [skipFrom]
  | cons c cs ih =>
    unfold skipFrom
    split
    · exact Nat.le_succ_of_le (ih _)
    · split
      · exact Nat.le_succ_of_le (ih _)
      · split
        · exact Nat.le_succ_of_le (ih _)
        · exact Nat.le_refl _

theorem length_skip_le (b : Bool) (cs : List Char) : (skip b cs).length ≤ cs.length := by
  unfold skip
  split
  · exact length_skipFrom_le _ _
  · exact Nat.le_refl _

/-- The characters up to a closing brace, blanks and comments left out if they do not count. -/
def bracedFrom? (blanks inComment : Bool) : List Char → Option (List Char × List Char)
  | [] => none
  | c :: cs =>
    if inComment then bracedFrom? blanks (c != '\n') cs
    else if blanks && Text.isBlank c then bracedFrom? blanks false cs
    else if blanks && c == '#' then bracedFrom? blanks true cs
    else if c = '}' then some ([], cs)
    else (bracedFrom? blanks false cs).map fun (content, rest) => (c :: content, rest)

/-- What stands between braces, behind the opening one. -/
def braced? (blanks : Bool) (cs : List Char) : Option (List Char × List Char) :=
  bracedFrom? blanks false cs

/-! ## Characters by code point -/

/-- The number of a hexadecimal numeral. -/
def hexNumber? (cs : List Char) : Option Nat :=
  cs.foldlM (fun n c => (Text.hexValue? c).map (16 * n + ·)) 0

/-- The character that a hexadecimal numeral stands for. -/
def hexChar? (cs : List Char) : Option Char :=
  if cs.isEmpty then none else (hexNumber? cs).bind Text.charOf?

/-- `n` characters, blanks passed over behind each. -/
def spaced? (blanks : Bool) : Nat → List Char → Option (List Char × List Char)
  | 0, cs => some ([], cs)
  | _ + 1, [] => none
  | n + 1, c :: cs => (spaced? blanks n (skip blanks cs)).map fun (ds, rest) => (c :: ds, rest)

/-- A character by its code point: `width` hexadecimal digits, or any number of them in braces. -/
def codePoint? (blanks : Bool) (width : Nat) (cs : List Char) :
    Option (Literal × List Char) :=
  match skip blanks cs with
  | '{' :: cs => do
    let (digits, rest) ← braced? blanks cs
    return (⟨← hexChar? digits, false⟩, rest)
  | cs => do
    let (digits, rest) ← spaced? blanks width cs
    return (⟨← hexChar? digits, width == 2⟩, rest)

/-! ## Classes by property -/

/-- The parts of a text in front of and behind the first occurrence of a mark. -/
def cut? (mark : List Char) : List Char → Option (List Char × List Char)
  | [] => none
  | c :: cs =>
    if mark.isPrefixOf (c :: cs) then some ([], (c :: cs).drop mark.length)
    else (cut? mark cs).map fun (front, back) => (c :: front, back)

/-- The class that a text in braces names: `name`, `name=value`, `name:value`, or
`name!=value` for the opposite. -/
def propertyClass (negated : Bool) (text : List Char) : NamedClass :=
  match cut? ['!', '='] text with
  | some (name, value) => .property (.value name value) !negated
  | none =>
    match (cut? [':'] text).orElse fun _ => cut? ['='] text with
    | some (name, value) => .property (.value name value) negated
    | none => .property (.single text) negated

/-- A class by property: a name in braces, or one character. -/
def property? (blanks negated : Bool) (cs : List Char) : Option (NamedClass × List Char) :=
  match skip blanks cs with
  | [] => none
  | '{' :: cs => (braced? blanks cs).map fun (text, rest) => (propertyClass negated text, rest)
  | '\\' :: _ => none
  | c :: cs => some (.property (.single [c]) negated, cs)

/-! ## Word boundaries -/

/-- The characters in the names of word boundaries. -/
def isBoundaryChar (c : Char) : Bool := c.isAlpha || c == '-'

/-- The word boundary with a name. -/
def boundary? (name : List Char) : Option Boundary :=
  if name = "start".toList then some .start
  else if name = "end".toList then some .finish
  else if name = "start-half".toList then some .startHalf
  else if name = "end-half".toList then some .finishHalf
  else none

/-- What follows `\b`: a name in braces, or something that does not belong to it. -/
def wordBoundary? (blanks : Bool) (cs : List Char) : Option (Boundary × List Char) :=
  match cs with
  | '{' :: inner =>
    match skip blanks inner with
    | [] => none
    | c :: _ =>
      if isBoundaryChar c then do
        let (name, rest) ← braced? blanks inner
        return (← boundary? name, rest)
      else some (.edge, cs)
  | _ => some (.edge, cs)

/-! ## All escapes -/

/-- What one character or one escape stands for, the dot apart. -/
inductive Primitive where
  | literal (l : Literal)
  | anchor (a : Anchor)
  | named (c : NamedClass)

/-- The seven-bit characters that stand for themselves behind a backslash. -/
def isEscapable (c : Char) : Bool :=
  c.toNat ≤ 0x7F && !c.isAlphanum && c != '<' && c != '>'

/-- The character that a letter behind a backslash stands for. -/
def controlLetter? : Char → Option Char
  | 'a' => some '\x07'
  | 'f' => some '\x0c'
  | 't' => some '\t'
  | 'n' => some '\n'
  | 'r' => some '\r'
  | 'v' => some '\x0b'
  | _ => none

/-- The class that a letter behind a backslash stands for. -/
def shortClass? : Char → Option NamedClass
  | 'd' => some (.short .digit false)
  | 's' => some (.short .space false)
  | 'w' => some (.short .word false)
  | 'D' => some (.short .digit true)
  | 'S' => some (.short .space true)
  | 'W' => some (.short .word true)
  | _ => none

/-- The place that a character behind a backslash stands for, `\b` apart. -/
def anchor? : Char → Option Anchor
  | 'A' => some .textStart
  | 'z' => some .textEnd
  | 'B' => some (.word .inside)
  | '<' => some (.word .start)
  | '>' => some (.word .finish)
  | _ => none

/-- The number of hexadecimal digits that a letter behind a backslash asks for. -/
def codePointWidth? : Char → Option Nat
  | 'x' => some 2
  | 'u' => some 4
  | 'U' => some 8
  | _ => none

/-- Reads what follows a backslash. -/
def escape? (blanks : Bool) : List Char → Option (Primitive × List Char)
  | [] => none
  | c :: cs =>
    if let some width := codePointWidth? c then
      (codePoint? blanks width cs).map fun (l, rest) => (.literal l, rest)
    else if c = 'p' ∨ c = 'P' then
      (property? blanks (c == 'P') cs).map fun (k, rest) => (.named k, rest)
    else if c = 'b' then
      (wordBoundary? blanks cs).map fun (b, rest) => (.anchor (.word b), rest)
    else if let some k := shortClass? c then some (.named k, cs)
    else if let some d := controlLetter? c then some (.literal ⟨d, false⟩, cs)
    else if let some a := anchor? c then some (.anchor a, cs)
    else if isEscapable c then some (.literal ⟨c, false⟩, cs)
    else none

end JsonQuery.Regex
