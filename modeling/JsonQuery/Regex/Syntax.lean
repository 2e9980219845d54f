/-!
# Syntax of patterns

* `Regex.Node` — a pattern as a tree.
* `Regex.SetNode` — what stands between the brackets of a set of characters.
* `Node.depth` — how deep a pattern nests.
-/

namespace JsonQuery.Regex

/-- What a letter between `(?` and `)` switches. -/
inductive Flag where
  | ignoreCase
  | multiLine
  | dotAll
  | swapGreed
  | unicode
  | crlf
  | skipBlanks
deriving DecidableEq, Repr

/-- The flag of a letter. -/
def Flag.ofChar? : Char → Option Flag
  | 'i' => some .ignoreCase
  | 'm' => some .multiLine
  | 's' => some .dotAll
  | 'U' => some .swapGreed
  | 'u' => some .unicode
  | 'R' => some .crlf
  | 'x' => some .skipBlanks
  | _ => none

/-- Flags in the order in which they are switched, each on or off. -/
abbrev FlagChange := List (Flag × Bool)

/-- A character as a pattern writes it; `isByte` marks the form of two hexadecimal digits. -/
structure Literal where
  char : Char
  isByte : Bool
deriving DecidableEq, Repr

/-- The places that `\b` and its relatives mean. -/
inductive Boundary where
  /-- Between a word character and another. -/
  | edge
  /-- Not at an edge. -/
  | inside
  /-- In front of a word. -/
  | start
  /-- Behind a word. -/
  | finish
  /-- Not behind a word character. -/
  | startHalf
  /-- Not in front of a word character. -/
  | finishHalf
deriving DecidableEq, Repr

/-- The places that a pattern can name. -/
inductive Anchor where
  | lineStart
  | lineEnd
  | textStart
  | textEnd
  | word (b : Boundary)
deriving DecidableEq, Repr

/-- The classes of one letter: `\d`, `\s` and `\w`. -/
inductive ShortClass where
  | digit
  | space
  | word
deriving DecidableEq, Repr

/-- What names a class by Unicode properties: one name, or a property and its value. -/
inductive PropertyName where
  | single (name : List Char)
  | value (property value : List Char)
deriving DecidableEq, Repr

/-- A class that one escape names. -/
inductive NamedClass where
  | short (k : ShortClass) (negated : Bool)
  | property (name : PropertyName) (negated : Bool)
deriving DecidableEq, Repr

/-- The classes between `[:` and `:]`. -/
inductive AsciiClass where
  | alnum
  | alpha
  | ascii
  | blank
  | cntrl
  | digit
  | graph
  | lower
  | print
  | punct
  | space
  | upper
  | word
  | xdigit
deriving DecidableEq, Repr

/-- The signs `&&`, `--` and `~~`. -/
inductive SetOp where
  | intersection
  | difference
  | symmetricDifference
deriving DecidableEq, Repr

/-- What stands between the brackets of a set of characters. -/
inductive SetNode where
  | empty
  | literal (l : Literal)
  | range (first last : Literal)
  | ascii (k : AsciiClass) (negated : Bool)
  | named (c : NamedClass)
  | bracket (negated : Bool) (body : SetNode)
  | union (items : List SetNode)
  | op (k : SetOp) (left right : SetNode)

/-- A pattern as a tree. -/
inductive Node where
  | empty
  | flags (change : FlagChange)
  | literal (l : Literal)
  | dot
  | anchor (a : Anchor)
  | named (c : NamedClass)
  | bracket (negated : Bool) (body : SetNode)
  | repeat (body : Node) (least : Nat) (most : Option Nat) (greedy : Bool)
  | group (captures : Bool) (change : FlagChange) (body : Node)
  | alternation (branches : List Node)
  | concat (items : List Node)

namespace SetNode

/-- Several items of a set as one. -/
def ofItems : List SetNode → SetNode
  | [] => empty
  | [item] => item
  | items => union items

mutual

/-- How deep a set nests. -/
def depth : SetNode → Nat
  | bracket _ body => body.depth + 1
  | union items => depthOfItems items + 1
  | op _ left right => max left.depth right.depth + 1
  | _ => 0

/-- The greatest depth among some items. -/
def depthOfItems : List SetNode → Nat
  | [] => 0
  | item :: rest => max item.depth (depthOfItems rest)

end

end SetNode

namespace Node

/-- Items in a row as one pattern. -/
def ofItems : List Node → Node
  | [] => empty
  | [item] => item
  | items => concat items

/-- Branches as one pattern. -/
def ofBranches : List Node → Node
  | [branch] => branch
  | branches => alternation branches

mutual

/-- How deep a pattern nests: sets, repetitions, groups, branches and rows of items count. -/
def depth : Node → Nat
  | bracket _ body => body.depth + 1
  | .repeat body _ _ _ => body.depth + 1
  | group _ _ body => body.depth + 1
  | alternation branches => depthOfItems branches + 1
  | concat items => depthOfItems items + 1
  | _ => 0

/-- The greatest depth among some patterns. -/
def depthOfItems : List Node → Nat
  | [] => 0
  | item :: rest => max item.depth (depthOfItems rest)

end

end Node

end JsonQuery.Regex
