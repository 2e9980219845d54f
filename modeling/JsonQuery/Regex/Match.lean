import JsonQuery.Regex.Pattern

/-!
# Matching

* `Place.holds` — whether a place is there between two characters.
* `Regex.Move` — what a smallest part of a pattern does on a given text.
* `Pattern.reach` — the positions behind a match that starts at one of some positions.
* `Pattern.matchesText` — whether a pattern matches some part of a text.

A set of positions in a text of `n` characters is a number whose bits 0 to `n` stand for them, so
one step for all positions is one operation on numbers.
-/

namespace JsonQuery.Regex

/-! ## Places -/

/-- Whether a boundary lies between a character and the next, given whether they belong to words. -/
def Boundary.holds : Boundary → Bool → Bool → Bool
  | edge, before, after => before != after
  | inside, before, after => before == after
  | start, before, after => !before && after
  | finish, before, after => before && !after
  | startHalf, before, _ => !before
  | finishHalf, _, after => !after

/-- Whether a character belongs to a word. -/
def isWordChar (unicode : Bool) (c : Option Char) : Bool :=
  match c with
  | none => false
  | some c => (ShortClass.word.chars unicode).contains c

/-- Whether a place is there between two characters; none stands for an end of the text. -/
def Place.holds : Place → Option Char → Option Char → Bool
  | textStart, before, _ => before.isNone
  | textEnd, _, after => after.isNone
  | lineStart, before, _ => before.isNone || before == some '\n'
  | lineEnd, _, after => after.isNone || after == some '\n'
  | anyLineStart, before, after =>
    before.isNone || before == some '\n' || (before == some '\r' && after != some '\n')
  | anyLineEnd, before, after =>
    after.isNone || after == some '\r' || (after == some '\n' && before != some '\r')
  | word b unicode, before, after => b.holds (isWordChar unicode before) (isWordChar unicode after)

/-! ## Positions -/

/-- The positions at which a row of answers is positive. -/
def positionsOf : List Bool → Nat
  | [] => 0
  | b :: bs => 2 * positionsOf bs + b.toNat

/-- The characters in front of and behind each position of a text. -/
def surroundings (text : List Char) : List (Option Char × Option Char) :=
  (none :: text.map some).zip (text.map some ++ [none])

/-- Whether each suffix of a text, the empty one last, starts with other characters. -/
def startsOf (cs : List Char) : List Char → List Bool
  | [] => [cs.isEmpty]
  | d :: ds => cs.isPrefixOf (d :: ds) :: startsOf cs ds

/-- What a smallest part of a pattern does on a given text: step over some characters at some
positions, or stay at some. -/
inductive Move where
  | step (width positions : Nat)
  | stay (positions : Nat)
deriving DecidableEq, Repr

namespace Move

/-- Where a move leads from some positions. -/
def apply : Move → Nat → Nat
  | step width p, s => (s &&& p) <<< width
  | stay p, s => s &&& p

end Move

/-- What a smallest part of a pattern does on a text. -/
def Atom.move (text : List Char) : Atom → Move
  | .text cs => .step cs.length (positionsOf (startsOf cs text))
  | chars _ s => .step 1 (positionsOf (text.map s.contains))
  | place p => .stay (positionsOf ((surroundings text).map fun (b, a) => p.holds b a))

/-! ## Repetition -/

/-- What `n` applications of a step make of some positions; ends early when a step changes
nothing. -/
def iterate (f : Nat → Nat) : Nat → Nat → Nat
  | 0, s => s
  | n + 1, s =>
    let t := f s
    if t = s then s else iterate f n t

/-- What at most `n` applications of a step make of some positions, all results taken together. -/
def gather (f : Nat → Nat) (n s : Nat) : Nat := iterate (fun s => s ||| f s) n s

namespace Pattern

mutual

/-- The positions behind a match that starts at one of some positions.  On a text of `n` characters
a repetition without upper bound adds nothing new behind `n + 1` rounds. -/
def reach (n : Nat) : Pattern Move → Nat → Nat
  | empty, s => s
  | atom m, s => m.apply s
  | group body, s => body.reach n s
  | .repeat body least most _, s =>
    let rounds := match most with
      | none => n + 1
      | some most => most - least
    gather (body.reach n) rounds (iterate (body.reach n) least s)
  | row items, s => reachBehind n items s
  | choice branches, s => reachAny n branches s

/-- The positions behind matches of patterns in a row. -/
def reachBehind (n : Nat) : List (Pattern Move) → Nat → Nat
  | [], s => s
  | p :: ps, s => reachBehind n ps (p.reach n s)

/-- The positions behind a match of one of some patterns. -/
def reachAny (n : Nat) : List (Pattern Move) → Nat → Nat
  | [], _ => 0
  | p :: ps, s => p.reach n s ||| reachAny n ps s

end

/-- Whether a pattern matches some part of a text. -/
def matchesText (p : Pattern Atom) (text : List Char) : Bool :=
  let n := text.length
  (p.map (Atom.move text)).reach n (Nat.pow 2 (n + 1) - 1) != 0

end Pattern

end JsonQuery.Regex
