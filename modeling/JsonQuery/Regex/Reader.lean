import JsonQuery.Regex.SetReader
import JsonQuery.Text.Digits
import JsonQuery.Unicode.Recent

/-!
# Patterns, read

* `Regex.Level` — what has been read of the innermost open group.
* `Regex.groupStart?` — what follows an opening parenthesis: a switch of flags, or a group.
* `Regex.count?` — the bounds of a counted repetition.
* `Node.ofText?` — reads a whole pattern.

Groups nest, so the reader keeps the open ones on a stack, the innermost in hand.
-/

namespace JsonQuery.Regex

/-! ## Levels -/

/-- What has been read since a group was opened: the branches that are complete and the items of the
last one, in both lists the last one first. -/
structure Level where
  branches : List Node
  items : List Node

namespace Level

/-- The start of a group. -/
def start : Level := ⟨[], []⟩

/-- One more item. -/
def push (l : Level) (item : Node) : Level := { l with items := item :: l.items }

/-- Ends a branch. -/
def nextBranch (l : Level) : Level := ⟨Node.ofItems l.items.reverse :: l.branches, []⟩

/-- Everything read as one pattern. -/
def close (l : Level) : Node := Node.ofBranches l.nextBranch.branches.reverse

/-- Repeats the last item.  There must be one, and a switch of flags cannot be repeated. -/
def repeat? (l : Level) (least : Nat) (most : Option Nat) (greedy : Bool) : Option Level :=
  match l.items with
  | [] => none
  | .flags _ :: _ => none
  | item :: rest => some { l with items := .repeat item least most greedy :: rest }

end Level

/-- A group whose closing parenthesis has not come yet, with what stands in front of it. -/
structure OpenGroup where
  outer : Level
  captures : Bool
  change : FlagChange
  /-- Whether blanks are passed over outside of the group. -/
  blanksOutside : Bool

/-- What has been read of a pattern. -/
structure State where
  groups : List OpenGroup
  level : Level
  /-- Whether blanks are passed over. -/
  blanks : Bool
  /-- The names of groups so far. -/
  names : List (List Char)

namespace State

/-- The start of a pattern. -/
def start : State := ⟨[], .start, false, []⟩

/-- One more item. -/
def push (s : State) (item : Node) : State := { s with level := s.level.push item }

/-- Repeats the last item. -/
def repeat? (s : State) (least : Nat) (most : Option Nat) (greedy : Bool) : Option State :=
  (s.level.repeat? least most greedy).map fun level => { s with level := level }

end State

/-! ## Groups -/

/-- Whether blanks are passed over behind a change of flags. -/
def blanksBehind (blanks : Bool) (change : FlagChange) : Bool :=
  (change.lookup .skipBlanks).getD blanks

/-- The flags between a question mark and a colon or a closing parenthesis.  No flag and no minus
may come twice, and a minus needs a flag behind it. -/
def flags? (on : Bool) (sofar : FlagChange) : List Char → Option (FlagChange × List Char)
  | [] => none
  | c :: cs =>
    if c = ':' ∨ c = ')' then some (sofar, c :: cs)
    else if c = '-' then
      match on, cs with
      | true, d :: _ => if d = ':' ∨ d = ')' then none else flags? false sofar cs
      | _, _ => none
    else
      match Flag.ofChar? c with
      | none => none
      | some f => if (sofar.lookup f).isSome then none else flags? on (sofar ++ [(f, on)]) cs

/-- The characters that start the name of a group. -/
def isNameStart (c : Char) : Bool := c == '_' || Unicode.Recent.alphabetic.contains c

/-- The characters that go on in the name of a group. -/
def isNamePart (c : Char) : Bool :=
  isNameStart c || c == '.' || c == '[' || c == ']' || Unicode.Recent.number.contains c

/-- The name of a group and the rest behind its angle bracket. -/
def groupName? (cs : List Char) : Option (List Char × List Char) :=
  let name := cs.takeWhile (· != '>')
  match name, cs.dropWhile (· != '>') with
  | c :: more, '>' :: rest =>
    if isNameStart c && more.all isNamePart then some (name, rest) else none
  | _, _ => none

/-- What an opening parenthesis starts. -/
inductive GroupStart where
  | switch (change : FlagChange)
  | plain (change : FlagChange)
  | numbered
  | named (name : List Char)

/-- What follows an opening parenthesis.  Conditions on the text around, such as `?=` and `?<!`, are
not known, and a switch of no flag is refused. -/
def groupStart? (cs : List Char) : Option (GroupStart × List Char) :=
  match cs with
  | '?' :: 'P' :: '<' :: cs => (groupName? cs).map fun (name, rest) => (.named name, rest)
  | '?' :: '<' :: cs => (groupName? cs).map fun (name, rest) => (.named name, rest)
  | '?' :: cs =>
    match flags? true [] cs with
    | some (change, ')' :: rest) => if change.isEmpty then none else some (.switch change, rest)
    | some (change, ':' :: rest) => some (.plain change, rest)
    | _ => none
  | cs => some (.numbered, cs)

namespace State

/-- Opens a group. -/
def openGroup (s : State) (captures : Bool) (change : FlagChange) : State :=
  { s with
    groups := ⟨s.level, captures, change, s.blanks⟩ :: s.groups
    level := .start
    blanks := blanksBehind s.blanks change }

/-- Does what an opening parenthesis starts.  No two groups have one name. -/
def startGroup? (s : State) : GroupStart → Option State
  | .switch change =>
    some { s.push (.flags change) with blanks := blanksBehind s.blanks change }
  | .plain change => some (s.openGroup false change)
  | .numbered => some (s.openGroup true [])
  | .named name =>
    if s.names.contains name then none
    else some { s.openGroup true [] with names := name :: s.names }

/-- Closes the innermost group. -/
def closeGroup? (s : State) : Option State :=
  match s.groups with
  | [] => none
  | g :: groups =>
    some { s with
      groups := groups
      level := g.outer.push (.group g.captures g.change s.level.close)
      blanks := g.blanksOutside }

/-- The whole pattern; no group may be open. -/
def finish? (s : State) : Option Node := if s.groups.isEmpty then some s.level.close else none

end State

/-! ## Repetitions -/

/-- A decimal numeral of at most 32 bits with blanks around it. -/
def bound? (cs : List Char) : Option Nat :=
  let digits := Text.trim cs
  if digits.isEmpty || !digits.all Text.isDigit then none
  else
    let n := Text.ofDigits digits
    if n < Nat.pow 2 32 then some n else none

/-- The bounds in braces: `n`, `n,` or `n,m` with `n` no greater than `m`. -/
def bounds? (text : List Char) : Option (Nat × Option Nat) :=
  match cut? [','] text with
  | none => (bound? text).map fun n => (n, some n)
  | some (least, []) => (bound? least).map fun n => (n, none)
  | some (least, most) => do
    let n ← bound? least
    let m ← bound? most
    if n ≤ m then return (n, some m) else none

/-- Whether a repetition prefers many rounds, and the rest: a question mark behind it asks for
few. -/
def greed : List Char → Bool × List Char
  | '?' :: cs => (false, cs)
  | cs => (true, cs)

/-- The bounds of a counted repetition, behind the opening brace. -/
def count? (blanks : Bool) (cs : List Char) : Option ((Nat × Option Nat) × List Char) := do
  let (text, rest) ← braced? blanks cs
  return (← bounds? text, skip blanks rest)

/-! ## Patterns -/

/-- What a character or an escape is as a pattern. -/
def Primitive.node : Primitive → Node
  | literal l => .literal l
  | anchor a => .anchor a
  | named c => .named c

/-- Repeats the last item and reads whether many rounds are preferred. -/
def repeatStep? (s : State) (least : Nat) (most : Option Nat) (cs : List Char) :
    Option (State × List Char) :=
  let (greedy, rest) := greed cs
  (s.repeat? least most greedy).map (·, rest)

/-- One step of reading, where no blank is to be passed over. -/
def step? (s : State) : List Char → Option (State × List Char)
  | [] => none
  | c :: cs =>
    match c with
    | '(' => do
      let (g, rest) ← groupStart? (skip s.blanks cs)
      return (← s.startGroup? g, rest)
    | ')' => s.closeGroup?.map (·, cs)
    | '|' => some ({ s with level := s.level.nextBranch }, cs)
    | '[' => (set? s.blanks cs).map fun (set, rest) => (s.push set, rest)
    | '?' => repeatStep? s 0 (some 1) cs
    | '*' => repeatStep? s 0 none cs
    | '+' => repeatStep? s 1 none cs
    | '{' => do
      let ((least, most), rest) ← count? s.blanks cs
      repeatStep? s least most rest
    | '\\' => (escape? s.blanks cs).map fun (p, rest) => (s.push p.node, rest)
    | '.' => some (s.push .dot, cs)
    | '^' => some (s.push (.anchor .lineStart), cs)
    | '$' => some (s.push (.anchor .lineEnd), cs)
    | c => some (s.push (.literal ⟨c, false⟩), cs)

/-- Reads on to the end of a pattern. -/
def readFrom? (s : State) (cs : List Char) : Option Node :=
  match skip s.blanks cs with
  | [] => s.finish?
  | c :: rest =>
    match step? s (c :: rest) with
    | none => none
    | some (s, rest) => if rest.length < cs.length then readFrom? s rest else none
termination_by cs.length

/-- The deepest nesting that is read. -/
def maxDepth : Nat := 250

/-- Reads a whole pattern. -/
def Node.ofText? (text : List Char) : Option Node :=
  match readFrom? .start text with
  | some node => if node.depth ≤ maxDepth then some node else none
  | none => none

end JsonQuery.Regex
