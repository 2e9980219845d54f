import JsonQuery.Regex.Escape

/-!
# Sets of characters, read

* `Regex.OpenSet` — a set whose closing bracket has not come yet.
* `Regex.set?` — reads a set behind its opening bracket.

Sets nest, so the reader keeps the open ones on a stack, the innermost in hand.
-/

namespace JsonQuery.Regex

/-- The class with a name between `[:` and `:]`. -/
def AsciiClass.ofName? (name : List Char) : Option AsciiClass :=
  [("alnum", alnum), ("alpha", alpha), ("ascii", ascii), ("blank", blank), ("cntrl", cntrl),
   ("digit", digit), ("graph", graph), ("lower", lower), ("print", print), ("punct", punct),
   ("space", space), ("upper", upper), ("word", word),
   ("xdigit", xdigit)].lookup (String.ofList name)

/-- A set whose closing bracket has not come yet: what stands left of the last sign, and the items
since then, the last one first. -/
structure OpenSet where
  negated : Bool
  left : Option (SetNode × SetOp)
  items : List SetNode

namespace OpenSet

/-- One more item. -/
def push (s : OpenSet) (item : SetNode) : OpenSet := { s with items := item :: s.items }

/-- Everything since the opening bracket.  All signs bind alike, from left to right. -/
def body (s : OpenSet) : SetNode :=
  let right := SetNode.ofItems s.items.reverse
  match s.left with
  | none => right
  | some (left, k) => .op k left right

/-- A sign. -/
def operator (s : OpenSet) (k : SetOp) : OpenSet := { s with left := some (s.body, k), items := [] }

end OpenSet

/-! ## The start of a set -/

/-- The hyphens at the start of a set, and the rest. -/
def leadingHyphens (blanks : Bool) : List Char → Nat × List Char
  | '-' :: cs =>
    let (n, rest) := leadingHyphens blanks (skip blanks cs)
    (n + 1, rest)
  | cs => (0, cs)
termination_by cs => cs.length
decreasing_by exact Nat.lt_succ_of_le (length_skip_le _ _)

/-- A character that stands for itself. -/
def verbatim (c : Char) : SetNode := .literal ⟨c, false⟩

/-- The start of a set behind its opening bracket: a negation or none, and the hyphens or the
closing bracket that stand for themselves there. -/
def openSet (blanks : Bool) (cs : List Char) : OpenSet × List Char :=
  let (negated, cs) := match skip blanks cs with
    | '^' :: cs => (true, skip blanks cs)
    | cs => (false, cs)
  let (hyphens, cs) := leadingHyphens blanks cs
  match hyphens, cs with
  | 0, ']' :: cs => (⟨negated, none, [verbatim ']']⟩, skip blanks cs)
  | n, cs => (⟨negated, none, List.replicate n (verbatim '-')⟩, cs)

/-- A class such as `[:alpha:]` or `[:^alpha:]`, behind its opening bracket. -/
def asciiClass? : List Char → Option (SetNode × List Char)
  | ':' :: cs => do
    let (negated, cs) := match cs with
      | '^' :: cs => (true, cs)
      | cs => (false, cs)
    let (name, rest) := (cs.takeWhile (· != ':'), cs.dropWhile (· != ':'))
    match rest with
    | ':' :: ']' :: rest => return (.ascii (← AsciiClass.ofName? name) negated, rest)
    | _ => none
  | _ => none

/-! ## Items -/

/-- A character or an escape. -/
def setPrimitive? (blanks : Bool) : List Char → Option (Primitive × List Char)
  | [] => none
  | '\\' :: cs => escape? blanks cs
  | c :: cs => some (.literal ⟨c, false⟩, cs)

/-- What a character or an escape contributes to a set; a place contributes nothing. -/
def Primitive.setNode? : Primitive → Option SetNode
  | literal l => some (.literal l)
  | named c => some (.named c)
  | anchor _ => none

/-- The character that ends a range, seen behind its hyphen.  Blanks are passed over, and of a
comment its first sign. -/
def peek (blanks : Bool) (cs : List Char) : Option Char :=
  if blanks then
    match cs.dropWhile Text.isBlank with
    | '#' :: cs => (cs.dropWhile Text.isBlank).head?
    | cs => cs.head?
  else cs.head?

/-- A character, a class or a range.  A hyphen in front of a closing bracket or of a second hyphen
makes no range. -/
def setItem? (blanks : Bool) (cs : List Char) : Option (SetNode × List Char) := do
  let (first, cs) ← setPrimitive? blanks cs
  let alone := do return (← first.setNode?, skip blanks cs)
  match skip blanks cs with
  | '-' :: cs =>
    let next := peek blanks cs
    if next = some ']' ∨ next = some '-' then alone
    else
      let (last, cs) ← setPrimitive? blanks (skip blanks cs)
      match first, last with
      | .literal a, .literal b => if a.char ≤ b.char then return (.range a b, cs) else none
      | _, _ => none
  | _ => alone

/-! ## Sets -/

/-- A sign between operands, at the start of a text. -/
def operator? : List Char → Option (SetOp × List Char)
  | '&' :: '&' :: cs => some (.intersection, cs)
  | '-' :: '-' :: cs => some (.difference, cs)
  | '~' :: '~' :: cs => some (.symmetricDifference, cs)
  | _ => none

/-- What one step of reading yields: more of a set, or the whole of it. -/
inductive SetStep where
  | more (outer : List OpenSet) (inner : OpenSet) (rest : List Char)
  | done (negated : Bool) (body : SetNode) (rest : List Char)

/-- Reads one item, bracket or sign. -/
def setStep? (blanks : Bool) (outer : List OpenSet) (inner : OpenSet) (cs : List Char) :
    Option SetStep :=
  match cs with
  | [] => none
  | '[' :: rest =>
    match asciiClass? rest with
    | some (item, rest) => some (.more outer (inner.push item) rest)
    | none =>
      let (s, rest) := openSet blanks rest
      some (.more (inner :: outer) s rest)
  | ']' :: rest =>
    match outer with
    | [] => some (.done inner.negated inner.body rest)
    | s :: outer => some (.more outer (s.push (.bracket inner.negated inner.body)) rest)
  | cs =>
    match operator? cs with
    | some (k, rest) => some (.more outer (inner.operator k) rest)
    | none => (setItem? blanks cs).map fun (item, rest) => .more outer (inner.push item) rest

/-- Reads on until the outermost set is closed. -/
def setFrom? (blanks : Bool) (outer : List OpenSet) (inner : OpenSet) (cs : List Char) :
    Option (Node × List Char) :=
  match setStep? blanks outer inner (skip blanks cs) with
  | none => none
  | some (.done negated body rest) => some (.bracket negated body, rest)
  | some (.more outer inner rest) =>
    if rest.length < cs.length then setFrom? blanks outer inner rest else none
termination_by cs.length

/-- Reads a set behind its opening bracket. -/
def set? (blanks : Bool) (cs : List Char) : Option (Node × List Char) :=
  let (s, rest) := openSet blanks cs
  setFrom? blanks [] s rest

end JsonQuery.Regex
