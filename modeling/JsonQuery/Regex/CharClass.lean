import JsonQuery.Regex.Syntax
import JsonQuery.Unicode.Age
import JsonQuery.Unicode.Binary
import JsonQuery.Unicode.Folding
import JsonQuery.Unicode.Script

/-!
# Meaning of classes and sets

* `Regex.Flags` — the flags on which meaning depends.
* `PropertyName.chars?` — the characters with a Unicode property, if the name is known.
* `NamedClass.chars?`, `SetNode.chars?` — the characters of a class and of a set.

Without the flag for Unicode a class holds seven-bit characters only; one that would hold others has
no meaning.
-/

namespace JsonQuery.Regex

open Unicode (CharSet)

/-- The flags on which meaning depends. -/
structure Flags where
  ignoreCase : Bool
  multiLine : Bool
  dotAll : Bool
  crlf : Bool
  swapGreed : Bool
  unicode : Bool
deriving DecidableEq, Repr

namespace Flags

/-- Only Unicode is on. -/
def initial : Flags := ⟨false, false, false, false, false, true⟩

/-- Switches one flag. -/
def set (f : Flags) : Flag → Bool → Flags
  | .ignoreCase, on => { f with ignoreCase := on }
  | .multiLine, on => { f with multiLine := on }
  | .dotAll, on => { f with dotAll := on }
  | .crlf, on => { f with crlf := on }
  | .unicode, on => { f with unicode := on }
  | .swapGreed, on => { f with swapGreed := on }
  | .skipBlanks, _ => f

/-- Switches flags in order. -/
def change (f : Flags) (c : FlagChange) : Flags := c.foldl (fun f (flag, on) => f.set flag on) f

/-- Adds what differs in case only, if case does not count. -/
def fold (f : Flags) (s : CharSet) : CharSet :=
  if !f.ignoreCase then s
  else if f.unicode then s.foldCase
  else s.foldCase ∩ .ascii

/-- A class folded and negated; refused if it holds more than the flags allow. -/
def finish? (f : Flags) (negated : Bool) (s : CharSet) : Option CharSet :=
  let s := f.fold s
  let s := if negated then s.complement else s
  if f.unicode || s.isAscii then some s else none

end Flags

/-! ## Named classes -/

/-- The characters of a class between `[:` and `:]`. -/
def AsciiClass.chars : AsciiClass → CharSet
  | alnum => .ofTable "30-39 41-5A 61-7A"
  | alpha => .ofTable "41-5A 61-7A"
  | ascii => .ofTable "0-7F"
  | blank => .ofTable "9 20"
  | cntrl => .ofTable "0-1F 7F"
  | digit => .ofTable "30-39"
  | graph => .ofTable "21-7E"
  | lower => .ofTable "61-7A"
  | print => .ofTable "20-7E"
  | punct => .ofTable "21-2F 3A-40 5B-60 7B-7E"
  | space => .ofTable "9-D 20"
  | upper => .ofTable "41-5A"
  | word => .ofTable "30-39 41-5A 5F 61-7A"
  | xdigit => .ofTable "30-39 41-46 61-66"

/-- The characters of a class of one letter. -/
def ShortClass.chars (unicode : Bool) : ShortClass → CharSet
  | digit => if unicode then Unicode.decimalNumber else AsciiClass.digit.chars
  | space => if unicode then Unicode.whiteSpace else AsciiClass.space.chars
  | word => if unicode then Unicode.wordCharacter else AsciiClass.word.chars

/-- The properties that take a value, each with the characters of its values. -/
def valueProperties : List (List String × (String → Option CharSet)) := [
  (["generalcategory", "gc"], Unicode.find? Unicode.generalCategories),
  (["script", "sc"], Unicode.find? Unicode.scripts),
  (["scriptextensions", "scx"], Unicode.scriptExtension?),
  (["age"], Unicode.age?),
  (["graphemeclusterbreak", "gcb"], Unicode.find? Unicode.graphemeBreaks),
  (["wordbreak", "wb"], Unicode.find? Unicode.wordBreaks),
  (["sentencebreak", "sb"], Unicode.find? Unicode.sentenceBreaks)
]

/-- The characters that a property name means.  One name alone is looked for among the binary
properties, the general categories and the scripts, in this order. -/
def PropertyName.chars? : PropertyName → Option CharSet
  | .single name =>
    let name := Unicode.normalName name
    (Unicode.find? Unicode.binaryProperties name).orElse fun _ =>
      (Unicode.find? Unicode.generalCategories name).orElse fun _ =>
        Unicode.find? Unicode.scripts name
  | .value property meant => do
    let property := Unicode.normalName property
    let (_, find) ← valueProperties.find? fun p => p.1.contains property
    find (Unicode.normalName meant)

/-- The characters of a class that one escape names.  Case does not matter to `\d`, `\s` and `\w`;
a property needs the flag for Unicode. -/
def NamedClass.chars? (f : Flags) : NamedClass → Option CharSet
  | short k negated => { f with ignoreCase := false }.finish? negated (k.chars f.unicode)
  | property name negated =>
    if f.unicode then name.chars?.bind (f.finish? negated) else none

/-! ## Sets -/

/-- A character of a set. -/
def Literal.inSet? (f : Flags) (l : Literal) : Option Char :=
  if f.unicode || l.char.toNat ≤ 0x7F then some l.char else none

/-- What a sign makes of two sets. -/
def SetOp.apply : SetOp → CharSet → CharSet → CharSet
  | intersection, s, t => s ∩ t
  | difference, s, t => s \ t
  | symmetricDifference, s, t => s.symmDiff t

mutual

/-- The characters of a set. -/
def SetNode.chars? (f : Flags) : SetNode → Option CharSet
  | .empty => some .empty
  | .literal l => (l.inSet? f).map .single
  | .range first last => do return .between (← first.inSet? f) (← last.inSet? f)
  | .ascii k negated => f.finish? negated k.chars
  | .named c => c.chars? f
  | .bracket negated body => (body.chars? f).bind (f.finish? negated)
  | .union items => (SetNode.itemSets? f items).map .unions
  | .op k left right => do
    return k.apply (f.fold (← left.chars? f)) (f.fold (← right.chars? f))

/-- The characters of each of some items. -/
def SetNode.itemSets? (f : Flags) : List SetNode → Option (List CharSet)
  | [] => some []
  | item :: rest => do return (← item.chars? f) :: (← SetNode.itemSets? f rest)

end

end JsonQuery.Regex
