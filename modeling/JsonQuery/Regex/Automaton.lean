import JsonQuery.Regex.Pattern
import JsonQuery.Unicode.Utf8
import Std.Data.HashMap

/-!
# The size of automata

A pattern is matched by automata over bytes, one that reads forward and one that reads backward, and
it is refused when one of them takes more than ten mebibytes.  Only their size is found here.  States
are numbered in the order in which they are made, since sharing of states depends on the numbers.

* `Automaton.Build` — a part of an automaton under construction: what it makes of the size so far.
* `Automaton.forwardSet`, `Automaton.backwardSet` — the states for one character of a set, with
  shared tails or shared starts of encodings.
* `Automaton.part` — the states for a pattern.
* `Automaton.fits` — whether both automata of a pattern have room.
-/

namespace JsonQuery.Regex.Automaton

open Unicode (ByteSpan CharSet)

/-! ## Sizes -/

/-- The size of an automaton: the number of its states, and the bytes that their tables and forks
take beyond that. -/
structure Size where
  states : Nat
  tables : Nat

/-- The memory of an automaton, in bytes; each state takes 32. -/
def Size.bytes (z : Size) : Nat := 32 * z.states + z.tables

/-- The most memory that an automaton may take. -/
def maxBytes : Nat := 10 * Nat.pow 2 20

/-- The size, if there is room for it. -/
def Size.check? (z : Size) : Option Size := if z.bytes ≤ maxBytes then some z else none

/-- One more state, with the bytes that its table takes. -/
def Size.state? (z : Size) (table : Nat) : Option Size :=
  Size.check? ⟨z.states + 1, z.tables + table⟩

/-- Several states without a table. -/
def Size.plain? (z : Size) (n : Nat) : Option Size := Size.check? ⟨z.states + n, z.tables⟩

/-- `n` more ways out of forks; each takes four bytes. -/
def Size.ways? (z : Size) (n : Nat) : Option Size := Size.check? ⟨z.states, z.tables + 4 * n⟩

/-- What a part ends in.  A fork takes one more way out to go on. -/
inductive End where
  | plain
  | fork
deriving DecidableEq, Repr

/-- Goes on behind the end of a part. -/
def End.leave? (e : End) (z : Size) : Option Size :=
  match e with
  | plain => some z
  | fork => z.ways? 1

/-- A part of an automaton: the size with it, and what it ends in. -/
abbrev Build := Size → Option (End × Size)

/-! ## Rows and repetitions -/

/-- `n` states in a row without tables. -/
def states (n : Nat) : Build := fun z => (z.plain? n).map (End.plain, ·)

/-- `n` copies of a part behind the end of another. -/
def copiesFrom (part : Build) : Nat → End → Size → Option (End × Size)
  | 0, e, z => some (e, z)
  | n + 1, e, z =>
    match part z with
    | none => none
    | some (e', z) =>
      match e.leave? z with
      | none => none
      | some z => copiesFrom part n e' z

/-- `n` copies of a part; an empty state for no copy. -/
def copies (part : Build) (n : Nat) : Build := fun z =>
  if n = 0 then states 1 z else copiesFrom part n .plain z

/-- `n` copies of a part behind the end of another, in front of each of which a fork leads past all
the rest. -/
def optionalFrom (part : Build) : Nat → End → Size → Option (End × Size)
  | 0, e, z => some (e, z)
  | n + 1, e, z =>
    match z.plain? 1 with
    | none => none
    | some z =>
      match part z with
      | none => none
      | some (e', z) =>
        match (e.leave? z).bind (·.ways? 2) with
        | none => none
        | some z => optionalFrom part n e' z

/-- From `least` to `most` copies. -/
def between (part : Build) (least most : Nat) : Build := fun z => do
  let (e, z) ← copies part least z
  if least = most then return (e, z)
  let (e, z) ← optionalFrom part (most - least) e (← z.plain? 1)
  return (.plain, ← e.leave? z)

/-- One copy or none. -/
def optional (part : Build) : Build := fun z => do
  let (e, z) ← part (← z.plain? 1)
  let z ← (← z.plain? 1).ways? 2
  return (.plain, ← e.leave? z)

/-- Any number of copies.  A part that may be empty is left by way of two forks. -/
def anyNumber (neverEmpty : Bool) (part : Build) : Build := fun z =>
  if neverEmpty then do
    let (e, z) ← part (← z.plain? 1)
    return (.fork, ← e.leave? (← z.ways? 1))
  else do
    let (e, z) ← part z
    let z ← (← z.plain? 3).ways? 4
    return (.plain, ← e.leave? z)

/-- At least `least` copies: a fork leads back to the last of them. -/
def atLeast (neverEmpty : Bool) (part : Build) (least : Nat) : Build := fun z =>
  if least = 0 then anyNumber neverEmpty part z
  else do
    let (e, z) ← copies part least z
    return (.fork, ← e.leave? (← (← z.plain? 1).ways? 1))

/-- Parts behind the end of another. -/
def rowFrom : List Build → End → Build
  | [], e, z => some (e, z)
  | part :: rest, e, z =>
    match part z with
    | none => none
    | some (e', z) =>
      match e.leave? z with
      | none => none
      | some z => rowFrom rest e' z

/-- Parts of which one is taken, each joined to a common end. -/
def forkInto : List Build → Size → Option Size
  | [], z => some z
  | part :: rest, z =>
    match part z with
    | none => none
    | some (e, z) =>
      match (e.leave? z).bind (·.ways? 1) with
      | none => none
      | some z => forkInto rest z

/-- One of at least two parts; the fork and the common end are made behind the second. -/
def oneOf (first second : Build) (rest : List Build) : Build := fun z => do
  let (e, z) ← first z
  let (e', z) ← second z
  let z ← (← z.plain? 2).ways? 2
  let z ← e'.leave? (← e.leave? z)
  return (.plain, ← forkInto rest z)

/-! ## Texts with common starts -/

/-- Texts as a tree of bytes.  A node keeps the children of each stretch between two texts that end
there, in order; `closed` holds the stretches in front of the last end. -/
inductive Trie where
  | node (closed : List (List (Nat × Trie))) (opened : List (Nat × Trie))

namespace Trie

/-- No text. -/
def empty : Trie := node [] []

/-- Marks the end of a text. -/
def endHere : Trie → Trie
  | node closed opened =>
    if opened.isEmpty && closed.all List.isEmpty && !closed.isEmpty then node closed opened
    else node (closed ++ [opened]) []

/-- The tree of one text. -/
def ofBytes : List Nat → Trie
  | [] => empty.endHere
  | b :: bs => node [] [(b, ofBytes bs)]

/-- The children in front of a byte, the child of the byte, and the children behind it. -/
def splitAt (b : Nat) (children : List (Nat × Trie)) :
    List (Nat × Trie) × Option Trie × List (Nat × Trie) :=
  let low := children.takeWhile (·.1 < b)
  match children.dropWhile (·.1 < b) with
  | (c, t) :: high => if c = b then (low, some t, high) else (low, none, (c, t) :: high)
  | [] => (low, none, [])

/-- One more text. -/
def insert : List Nat → Trie → Trie
  | [], t => t.endHere
  | b :: bs, node closed opened =>
    let (low, child, high) := splitAt b opened
    let child := match child with
      | some t => insert bs t
      | none => ofBytes bs
    node closed (low ++ (b, child) :: high)

mutual

/-- The states of a tree: for each node that has children one for each stretch of them, with a table
where there are several, and one fork for them and for the texts that end there. -/
def build (t : Trie) (z : Size) : Option Size :=
  match t with
  | node closed opened =>
    if opened.isEmpty && closed.all List.isEmpty then some z
    else do
      let z ← buildStretches closed z
      let z ← buildChildren opened z
      let stretches := (closed ++ [opened]).filter fun s => !s.isEmpty
      let tables := stretches.foldl (fun n s => n + if s.length = 1 then 0 else 8 * s.length) 0
      Size.check? ⟨z.states + stretches.length + 1,
        z.tables + tables + 4 * (stretches.length + closed.length)⟩

/-- The states below the children of some stretches. -/
def buildStretches (stretches : List (List (Nat × Trie))) (z : Size) : Option Size :=
  match stretches with
  | [] => some z
  | s :: rest => (buildChildren s z).bind (buildStretches rest)

/-- The states below some children. -/
def buildChildren (children : List (Nat × Trie)) (z : Size) : Option Size :=
  match children with
  | [] => some z
  | (_, t) :: rest => (build t z).bind (buildChildren rest)

end

end Trie

/-- One of some texts. -/
def oneOfTexts (texts : List (List Nat)) : Build := fun z => do
  let z ← z.plain? 1
  let t := texts.foldl (fun t text => t.insert text) Trie.empty
  return (.plain, ← t.build z)

/-! ## Sharing -/

/-- States that can be found by what they do.  There is room for a fixed number of them; a new one
takes the place of any other of the same mark. -/
structure Shared (κ : Type) where
  room : Nat
  found : Std.HashMap Nat (κ × Nat)

namespace Shared

variable {κ : Type} [DecidableEq κ]

/-- No state. -/
def empty (room : Nat) : Shared κ := ⟨room, ∅⟩

/-- The place of a state among the shared ones: words are mixed in one by one, to 64 bits. -/
def mark (s : Shared κ) (words : List Nat) : Nat :=
  let mixed := words.foldl (fun (h : UInt64) w => (h ^^^ w.toUInt64) * 1099511628211)
    14695981039346656037
  mixed.toNat % s.room

/-- The state that does something. -/
def find? (s : Shared κ) (mark : Nat) (key : κ) : Option Nat :=
  match s.found[mark]? with
  | some (k, state) => if k = key then some state else none
  | none => none

/-- Adds a state. -/
def add (s : Shared κ) (mark : Nat) (key : κ) (state : Nat) : Shared κ :=
  { s with found := s.found.insert mark (key, state) }

end Shared

/-- Where a range of bytes leads. -/
structure Step where
  span : ByteSpan
  next : Nat
deriving DecidableEq

/-! ## Sets, read forward -/

/-- A node of the encodings of a set that can still grow: its finished steps, the last one first,
and the range of bytes that leads to the nodes in hand. -/
structure Growing where
  done : List Step
  last : Option ByteSpan

/-- The last range of bytes leads to a state. -/
def Growing.finish (g : Growing) (next : Nat) : List Step :=
  match g.last with
  | some span => ⟨span, next⟩ :: g.done
  | none => g.done

/-- What is known while the encodings of a set are added: the states that share their tails, and the
size so far. -/
structure Tails where
  shared : Shared (List Step)
  size : Size

/-- The state with some steps, the last one first: a shared one, or a new one with a table. -/
def Tails.state? (t : Tails) (steps : List Step) : Option (Nat × Tails) :=
  let steps := steps.reverse
  let mark := t.shared.mark (steps.flatMap fun s => [s.span.first, s.span.last, s.next])
  match t.shared.find? mark steps with
  | some state => some (state, t)
  | none =>
    let state := t.size.states
    (t.size.state? (8 * steps.length)).map fun z => (state, ⟨t.shared.add mark steps state, z⟩)

/-- Finishes nodes that lie one below the other, the lowest first; `target` lies below them all. -/
def Tails.close? (target : Nat) : List Growing → Tails → Option (Nat × Tails)
  | [], t => some (target, t)
  | g :: below, t =>
    match Tails.close? target below t with
    | none => none
    | some (next, t) => t.state? (g.finish next)

/-- Adds a row of byte ranges: what it shares with the row before stays open, the rest of that row
is finished. -/
def Tails.add? (target : Nat) : List Growing → List ByteSpan → Tails →
    Option (List Growing × Tails)
  | g :: below, b :: bs, t =>
    if g.last = some b then
      (Tails.add? target below bs t).map fun (below, t) => (g :: below, t)
    else
      match Tails.close? target below t with
      | none => none
      | some (next, t) =>
        some (⟨g.finish next, some b⟩ :: bs.map fun b => ⟨[], some b⟩, t)
  | nodes, _, t => some (nodes, t)

/-- Adds rows of byte ranges in increasing order and finishes them all. -/
def Tails.addAll? (target : Nat) : List Growing → List (List ByteSpan) → Tails →
    Option (Nat × Tails)
  | opened, [], t => Tails.close? target opened t
  | opened, row :: rows, t =>
    match Tails.add? target opened row t with
    | none => none
    | some (opened, t) => Tails.addAll? target opened rows t

/-- One character of a set, read forward: encodings share their tails. -/
def forwardSet (rows : List (List ByteSpan)) : Build := fun z =>
  match z.plain? 1 with
  | none => none
  | some start =>
    (Tails.addAll? z.states [⟨[], none⟩] rows ⟨.empty 10000, start⟩).map fun (_, t) =>
      (.plain, t.size)

/-! ## Sets, read backward -/

/-- What is known while the encodings of a set are added: the states that share what they lead to,
and the size so far. -/
structure Starts where
  shared : Shared Step
  size : Size

/-- The states of a row of byte ranges; each leads to the state of the range in front of it. -/
def Starts.add? : List ByteSpan → Nat → Starts → Option Starts
  | [], _, s => (s.size.ways? 1).map fun z => ⟨s.shared, z⟩
  | b :: bs, next, s =>
    let mark := s.shared.mark [next, b.first, b.last]
    match s.shared.find? mark ⟨b, next⟩ with
    | some state => Starts.add? bs state s
    | none =>
      match s.size.plain? 1 with
      | none => none
      | some z => Starts.add? bs s.size.states ⟨s.shared.add mark ⟨b, next⟩ s.size.states, z⟩

/-- The states of all rows. -/
def Starts.addAll? (target : Nat) : List (List ByteSpan) → Starts → Option Starts
  | [], s => some s
  | row :: rows, s =>
    match Starts.add? row target s with
    | none => none
    | some s => Starts.addAll? target rows s

/-- One character of a set, read backward: a fork leads to the last bytes of the encodings, which
share their starts. -/
def backwardSet (rows : List (List ByteSpan)) : Build := fun z =>
  match z.plain? 2 with
  | none => none
  | some start =>
    (Starts.addAll? (z.states + 1) rows ⟨.empty 1000, start⟩).map fun s => (.plain, s.size)

/-! ## Patterns -/

/-- The smallest parts of a pattern as bytes. -/
inductive Shape where
  | text (bytes : List Nat)
  /-- One of some ranges of bytes. -/
  | table (ranges : Nat)
  | set (rows : List (List ByteSpan))
  | place

/-- A smallest part as bytes. -/
def Shape.ofAtom : Atom → Shape
  | .text cs => text (cs.flatMap fun c => (String.utf8EncodeChar c).map UInt8.toNat)
  | .chars _ s => if s.isAscii then table s.ranges.length else set s.byteRows
  | .place _ => place

/-- The direction in which an automaton reads. -/
inductive Direction where
  | forward
  | backward
deriving DecidableEq, Repr

/-- The states of a smallest part. -/
def Shape.part (d : Direction) : Shape → Build
  | text bytes => states bytes.length
  | table n => fun z => do return (.plain, ← (← z.plain? 1).state? (8 * n))
  | set rows => match d with
    | .forward => forwardSet rows
    | .backward => backwardSet rows
  | place => states 1

mutual

/-- The least number of bytes that a pattern matches; none if it matches nothing. -/
def least? : Pattern Shape → Option Nat
  | .empty => some 0
  | .atom (.text bytes) => some bytes.length
  | .atom (.table n) => if n = 0 then none else some 1
  | .atom (.set _) => some 1
  | .atom .place => some 0
  | .group body => least? body
  | .repeat body least _ _ => (least? body).map (least * ·)
  | .row items => leastSum? items
  | .choice branches => leastOf? branches

/-- The least number of bytes that patterns in a row match. -/
def leastSum? : List (Pattern Shape) → Option Nat
  | [] => some 0
  | p :: ps => do return (← least? p) + (← leastSum? ps)

/-- The least number of bytes that one of some patterns matches. -/
def leastOf? : List (Pattern Shape) → Option Nat
  | [] => none
  | [p] => least? p
  | p :: ps => do return min (← least? p) (← leastOf? ps)

end

/-- The texts of patterns that are all texts. -/
def texts? : List (Pattern Shape) → Option (List (List Nat))
  | [] => some []
  | .atom (.text bytes) :: ps => (texts? ps).map (bytes :: ·)
  | _ :: _ => none

/-- Items in the order in which they are read. -/
def Direction.order {α : Type} (d : Direction) (items : List α) : List α :=
  match d with
  | forward => items
  | backward => items.reverse

mutual

/-- The states of a pattern.  Groups are noted only by the automaton that reads forward. -/
def part (d : Direction) : Pattern Shape → Build
  | .empty => states 1
  | .atom a => a.part d
  | .group body =>
    match d with
    | .backward => part d body
    | .forward => fun z => do
      let (e, z) ← part d body (← z.plain? 1)
      return (.plain, ← e.leave? (← z.plain? 1))
  | .repeat body least most _ =>
    match most with
    | none => atLeast (match least? body with | some n => 0 < n | none => false) (part d body) least
    | some most =>
      if least = 0 ∧ most = 1 then optional (part d body) else between (part d body) least most
  | .row items => rowFrom (d.order (parts d items)) .plain
  | .choice branches =>
    match texts? branches with
    | some texts => oneOfTexts (texts.map d.order)
    | none =>
      match parts d branches with
      | first :: second :: rest => oneOf first second rest
      | [only] => only
      | [] => states 1

/-- The states of each of some patterns. -/
def parts (d : Direction) : List (Pattern Shape) → List Build
  | [] => []
  | p :: ps => part d p :: parts d ps

end

mutual

/-- Whether every match starts at the start of the text. -/
def opensText : Pattern Atom → Bool
  | .atom (.place p) => p == .textStart
  | .group body => opensText body
  | .repeat body least _ _ => 0 < least && opensText body
  | .row items => opensTextIn items
  | .choice branches => allOpenText branches
  | _ => false

/-- Whether every match of patterns in a row starts at the start of the text. -/
def opensTextIn : List (Pattern Atom) → Bool
  | [] => false
  | p :: ps => opensText p || (p.isTrivial && opensTextIn ps)

/-- Whether every match of any of some patterns starts at the start of the text. -/
def allOpenText : List (Pattern Atom) → Bool
  | [] => true
  | p :: ps => opensText p && allOpenText ps

end

mutual

/-- Whether every match ends at the end of the text. -/
def closesText : Pattern Atom → Bool
  | .atom (.place p) => p == .textEnd
  | .group body => closesText body
  | .repeat body least _ _ => 0 < least && closesText body
  | .row items => (closesTextIn items).1
  | .choice branches => allCloseText branches
  | _ => false

/-- Whether every match of patterns in a row ends at the end of the text, and whether all of them
match nothing but the empty text. -/
def closesTextIn : List (Pattern Atom) → Bool × Bool
  | [] => (false, true)
  | p :: ps =>
    let (closed, trivial) := closesTextIn ps
    (closed || (trivial && closesText p), trivial && p.isTrivial)

/-- Whether every match of any of some patterns ends at the end of the text. -/
def allCloseText : List (Pattern Atom) → Bool
  | [] => true
  | p :: ps => closesText p && allCloseText ps

end

/-- A whole automaton.  Where a match need not start at the first character that is read, a loop over
all bytes stands in front. -/
def whole (d : Direction) (anchored : Bool) (p : Pattern Shape) : Build := fun z => do
  let (prefixed, z) ←
    if anchored then states 1 z
    else anyNumber true (fun z => do return (.plain, ← (← z.plain? 1).state? 8)) z
  let (e, z) ← part d (.group p) z
  let z ← e.leave? (← z.plain? 1)
  return (.plain, ← prefixed.leave? z)

/-- Whether both automata of a pattern have room. -/
def fits (p : Pattern Atom) : Bool :=
  let shape := p.map Shape.ofAtom
  (whole .forward (opensText p) shape ⟨0, 0⟩).isSome &&
    (whole .backward (closesText p) shape ⟨0, 0⟩).isSome

end JsonQuery.Regex.Automaton
