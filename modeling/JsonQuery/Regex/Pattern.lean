import JsonQuery.Regex.Reader
import JsonQuery.Regex.CharClass

/-!
# Patterns over sets of characters

* `Regex.Pattern` — a pattern whose smallest parts are of any kind; `Pattern.map` replaces them.
* `Regex.Atom` — a text, one character of a set, or a place.
* `Pattern.ofChars`, `Pattern.repeated`, `Pattern.inRow`, `Pattern.oneOf` — build patterns in their
  simplest form: texts in a row are joined, branches of single characters become a set, and what all
  branches start with stands in front of them.
* `Node.pattern?` — what a pattern as written means under flags, if all its classes have a meaning.
-/

namespace JsonQuery.Regex

open Unicode (CharSet)

/-- The places that a part of a pattern can ask for. -/
inductive Place where
  | textStart
  | textEnd
  /-- Behind a line feed. -/
  | lineStart
  /-- In front of a line feed. -/
  | lineEnd
  /-- Behind a line feed, a carriage return or both. -/
  | anyLineStart
  /-- In front of a line feed, a carriage return or both. -/
  | anyLineEnd
  | word (b : Boundary) (unicode : Bool)
deriving DecidableEq, Repr

/-- The smallest parts of a pattern.  A set remembers whether it was written with the flag for
Unicode. -/
inductive Atom where
  | text (cs : List Char)
  | chars (unicode : Bool) (s : CharSet)
  | place (p : Place)
deriving DecidableEq, Repr

/-- A pattern whose smallest parts are of type `α`.  A group matches what its content matches. -/
inductive Pattern (α : Type) where
  | empty
  | atom (a : α)
  | group (body : Pattern α)
  | repeat (body : Pattern α) (least : Nat) (most : Option Nat) (greedy : Bool)
  | row (items : List (Pattern α))
  | choice (branches : List (Pattern α))

namespace Pattern

mutual

/-- Replaces the smallest parts. -/
def map {α β : Type} (f : α → β) : Pattern α → Pattern β
  | empty => .empty
  | atom a => .atom (f a)
  | group body => .group (body.map f)
  | .repeat body least most greedy => .repeat (body.map f) least most greedy
  | row items => .row (mapAll f items)
  | choice branches => .choice (mapAll f branches)

/-- Replaces the smallest parts of some patterns. -/
def mapAll {α β : Type} (f : α → β) : List (Pattern α) → List (Pattern β)
  | [] => []
  | p :: ps => p.map f :: mapAll f ps

end

mutual

/-- The number of parts of a pattern. -/
def size {α : Type} : Pattern α → Nat
  | empty | atom _ => 1
  | group body | .repeat body _ _ _ => body.size + 1
  | row items => sizeOfAll items + 1
  | choice branches => sizeOfAll branches + 1

/-- The number of parts of some patterns. -/
def sizeOfAll {α : Type} : List (Pattern α) → Nat
  | [] => 0
  | p :: ps => p.size + sizeOfAll ps

end

mutual

/-- Whether a pattern can match nothing but the empty text. -/
def isTrivial : Pattern Atom → Bool
  | empty => true
  | atom (.text cs) => cs.isEmpty
  | atom (.chars _ _) => false
  | atom (.place _) => true
  | group body | .repeat body _ _ _ => body.isTrivial
  | row items => areTrivial items
  | choice branches => areTrivial branches

/-- Whether some patterns can match nothing but the empty text. -/
def areTrivial : List (Pattern Atom) → Bool
  | [] => true
  | p :: ps => p.isTrivial && areTrivial ps

end

mutual

/-- Whether two patterns are the same.  Two groups never are, since each has a number of its own. -/
def same : Pattern Atom → Pattern Atom → Bool
  | empty, empty => true
  | atom a, atom b => a == b
  | .repeat p least most greedy, .repeat q least' most' greedy' =>
    p.same q && least == least' && most == most' && greedy == greedy'
  | row ps, row qs => allSame ps qs
  | choice ps, choice qs => allSame ps qs
  | _, _ => false

/-- Whether two rows of patterns are the same. -/
def allSame : List (Pattern Atom) → List (Pattern Atom) → Bool
  | [], [] => true
  | p :: ps, q :: qs => p.same q && allSame ps qs
  | _, _ => false

end

/-! ## Simplest forms -/

/-- One character of a set; halves of surrogate pairs are none. -/
def ofChars (unicode : Bool) (s : CharSet) : Pattern Atom :=
  let s := s \ Unicode.surrogate
  match s.ranges with
  | [] => .atom (.chars false s)
  | [r] =>
    if r.first = r.last then .atom (.text [Char.ofNat r.first]) else .atom (.chars unicode s)
  | _ => .atom (.chars unicode s)

/-- A repetition.  Repeating the empty text more than once adds nothing, no round at all leaves the
empty text, and one round the body alone. -/
def repeated (body : Pattern Atom) (least : Nat) (most : Option Nat) (greedy : Bool) :
    Pattern Atom :=
  let (least, most) :=
    if body.isTrivial then (min least 1, some (min (most.getD 1) 1)) else (least, most)
  if most = some 0 then .empty
  else if least = 1 ∧ most = some 1 then body
  else .repeat body least most greedy

/-- The items that a pattern contributes to a row. -/
def items : Pattern Atom → List (Pattern Atom)
  | empty => []
  | row items => items
  | p => [p]

/-- Joins texts that stand next to each other. -/
def joinTexts : List (Pattern Atom) → List (Pattern Atom)
  | [] => []
  | p :: ps =>
    match p, joinTexts ps with
    | .atom (.text s), .atom (.text t) :: rest => .atom (.text (s ++ t)) :: rest
    | p, rest => p :: rest

/-- Patterns in a row. -/
def inRow (ps : List (Pattern Atom)) : Pattern Atom :=
  match joinTexts (ps.flatMap items) with
  | [] => .empty
  | [p] => p
  | ps => .row ps

/-- The branches that a pattern contributes to a choice. -/
def branches : Pattern Atom → List (Pattern Atom)
  | choice branches => branches
  | p => [p]

/-- The characters of texts of one character each. -/
def singles? : List (Pattern Atom) → Option (List CharSet)
  | [] => some []
  | .atom (.text [c]) :: ps => (singles? ps).map (.single c :: ·)
  | _ :: _ => none

/-- The sets of patterns that each stand for one character of a set. -/
def sets? : List (Pattern Atom) → Option (List CharSet)
  | [] => some []
  | .atom (.chars _ s) :: ps => (sets? ps).map (s :: ·)
  | _ :: _ => none

/-- The items of patterns that are all rows. -/
def rows? : List (Pattern Atom) → Option (List (List (Pattern Atom)))
  | [] => some []
  | .row items :: ps => (rows? ps).map (items :: ·)
  | _ :: _ => none

/-- What two rows have in common at their starts. -/
def commonStart : List (Pattern Atom) → List (Pattern Atom) → List (Pattern Atom)
  | p :: ps, q :: qs => if p.same q then p :: commonStart ps qs else []
  | _, _ => []

/-- A choice in its simplest form; each round of simplification takes one from `fuel`, which the
number of parts bounds. -/
def chooseWithin : Nat → List (Pattern Atom) → Pattern Atom
  | 0, ps => .choice ps
  | fuel + 1, ps =>
    match ps.flatMap branches with
    | [] => ofChars false .empty
    | [p] => p
    | ps =>
      match (singles? ps).orElse fun _ => sets? ps with
      | some sets => ofChars true (.unions sets)
      | none =>
        match rows? ps with
        | some (first :: others) =>
          let start := others.foldl commonStart first
          if start.isEmpty then .choice ps
          else
            let rests := (first :: others).map fun items => inRow (items.drop start.length)
            inRow (start ++ [chooseWithin fuel rests])
        | _ => .choice ps

/-- One of some patterns. -/
def oneOf (ps : List (Pattern Atom)) : Pattern Atom := chooseWithin (sizeOfAll ps + 1) ps

end Pattern

/-! ## From syntax to meaning -/

/-- A character: alone, or with what differs from it in case only. -/
def Literal.chars? (f : Flags) (l : Literal) : Option CharSet :=
  if f.unicode then some (f.fold (.single l.char))
  else if l.char.toNat ≤ 0x7F then some (f.fold (.single l.char))
  else if l.isByte then none
  else some (.single l.char)

/-- The characters that a dot stands for: all, or all that do not end a line. -/
def dotChars? (f : Flags) : Option CharSet :=
  if !f.unicode then none
  else if f.dotAll then some .all
  else if f.crlf then some (CharSet.ofTable "A D").complement
  else some (CharSet.ofTable "A").complement

/-- The place that an anchor means. -/
def Anchor.place (f : Flags) : Anchor → Place
  | lineStart => if !f.multiLine then .textStart else if f.crlf then .anyLineStart else .lineStart
  | lineEnd => if !f.multiLine then .textEnd else if f.crlf then .anyLineEnd else .lineEnd
  | textStart => .textStart
  | textEnd => .textEnd
  | word b => .word b f.unicode

mutual

/-- What a pattern means under flags, and the flags behind it.  A switch of flags holds to the end
of the group that contains it. -/
def Node.pattern? (f : Flags) : Node → Option (Pattern Atom × Flags)
  | .empty => some (.empty, f)
  | .flags c => some (.empty, f.change c)
  | .literal l => (l.chars? f).map fun s => (.ofChars f.unicode s, f)
  | .dot => (dotChars? f).map fun s => (.ofChars f.unicode s, f)
  | .anchor a => some (.atom (.place (a.place f)), f)
  | .named c => (c.chars? f).map fun s => (.ofChars f.unicode s, f)
  | .bracket negated body =>
    ((body.chars? f).bind (f.finish? negated)).map fun s => (.ofChars f.unicode s, f)
  | .repeat body least most greedy =>
    (body.pattern? f).map fun (p, f) => (.repeated p least most (greedy != f.swapGreed), f)
  | .group captures c body =>
    (body.pattern? (f.change c)).map fun (p, _) => (if captures then .group p else p, f)
  | .alternation branches => (Node.patterns? f branches).map fun (ps, f) => (.oneOf ps, f)
  | .concat items => (Node.patterns? f items).map fun (ps, f) => (.inRow ps, f)

/-- What patterns mean one after the other. -/
def Node.patterns? (f : Flags) : List Node → Option (List (Pattern Atom) × Flags)
  | [] => some ([], f)
  | node :: rest => do
    let (p, f) ← node.pattern? f
    let (ps, f) ← Node.patterns? f rest
    return (p :: ps, f)

end

end JsonQuery.Regex
