/-!
# Sets of characters

* `CharSet` — a set of code points, held as ranges in increasing order that neither overlap nor
  touch.
* `CharSet.ofRanges` — the set of code points that lie in one of some ranges, in any order.
* `∪`, `∩`, `\` and `CharSet.complement` — the set operations.
* `CharSet.ofTable` — reads the written form of a set, such as `41-5A C0-D6 100-136/2`: ranges in
  hexadecimal, where `/2` takes every second code point.
-/

namespace JsonQuery.Unicode

/-- A range of code points, both ends included. -/
structure Range where
  first : Nat
  last : Nat
deriving DecidableEq, Repr, Inhabited

namespace Range

/-- Whether a code point lies in a range. -/
def contains (r : Range) (n : Nat) : Bool := r.first ≤ n && n ≤ r.last

/-- The common part of two ranges. -/
def meet (r s : Range) : Range := ⟨max r.first s.first, min r.last s.last⟩

end Range

/-- A set of code points: ranges in increasing order that neither overlap nor touch. -/
structure CharSet where
  ranges : List Range
deriving DecidableEq, Repr, Inhabited

namespace CharSet

/-- The largest code point. -/
def maxCodePoint : Nat := 0x10FFFF

/-! ## Membership -/

/-- Whether a code point lies in one of some increasing ranges; looks no further than the first
range behind it. -/
def searchRanges (n : Nat) : List Range → Bool
  | [] => false
  | r :: rs => if n < r.first then false else n ≤ r.last || searchRanges n rs

/-- Whether a code point belongs to a set. -/
def hasCode (s : CharSet) (n : Nat) : Bool := searchRanges n s.ranges

/-- Whether a character belongs to a set. -/
def contains (s : CharSet) (c : Char) : Bool := s.hasCode c.toNat

/-! ## Building sets -/

/-- Joins ranges that are ordered by their first code points wherever they overlap or touch. -/
def joinOrdered : Range → List Range → List Range
  | r, [] => [r]
  | r, s :: rest =>
    if s.first ≤ r.last + 1 then joinOrdered ⟨r.first, max r.last s.last⟩ rest
    else r :: joinOrdered s rest

/-- The code points that lie in one of some ranges. -/
def ofRanges (rs : List Range) : CharSet :=
  match (rs.filter fun r => decide (r.first ≤ r.last)).mergeSort
      fun r s => decide (r.first ≤ s.first) with
  | [] => ⟨[]⟩
  | r :: rest => ⟨joinOrdered r rest⟩

/-- No code point. -/
def empty : CharSet := ⟨[]⟩

/-- All code points. -/
def all : CharSet := ⟨[⟨0, maxCodePoint⟩]⟩

/-- The code points of the seven-bit code. -/
def ascii : CharSet := ⟨[⟨0, 0x7F⟩]⟩

/-- One character. -/
def single (c : Char) : CharSet := ⟨[⟨c.toNat, c.toNat⟩]⟩

/-- The characters between two. -/
def between (first last : Char) : CharSet := ofRanges [⟨first.toNat, last.toNat⟩]

/-! ## Operations -/

/-- The code points of either set. -/
def union (s t : CharSet) : CharSet := ofRanges (s.ranges ++ t.ranges)

/-- The code points of any of some sets. -/
def unions (ss : List CharSet) : CharSet := ofRanges (ss.flatMap CharSet.ranges)

/-- The gaps between increasing ranges, from a code point on. -/
def gaps (start : Nat) : List Range → List Range
  | [] => if start ≤ maxCodePoint then [⟨start, maxCodePoint⟩] else []
  | r :: rs =>
    if start < r.first then ⟨start, r.first - 1⟩ :: gaps (r.last + 1) rs else gaps (r.last + 1) rs

/-- The code points that do not belong to a set. -/
def complement (s : CharSet) : CharSet := ⟨gaps 0 s.ranges⟩

/-- The common parts of two increasing rows of ranges. -/
def meetOrdered : List Range → List Range → List Range
  | [], _ => []
  | _ :: _, [] => []
  | r :: rs, s :: ss =>
    let rest := if r.last < s.last then meetOrdered rs (s :: ss) else meetOrdered (r :: rs) ss
    if (r.meet s).first ≤ (r.meet s).last then r.meet s :: rest else rest
termination_by rs ss => rs.length + ss.length

/-- The code points of both sets. -/
def inter (s t : CharSet) : CharSet := ⟨meetOrdered s.ranges t.ranges⟩

/-- The code points of the first set that are not in the second. -/
def sdiff (s t : CharSet) : CharSet := s.inter t.complement

/-- The code points of exactly one of two sets. -/
def symmDiff (s t : CharSet) : CharSet := (s.sdiff t).union (t.sdiff s)

instance : Union CharSet := ⟨union⟩
instance : Inter CharSet := ⟨inter⟩
instance : SDiff CharSet := ⟨sdiff⟩

/-- Whether all code points of a set belong to the seven-bit code. -/
def isAscii (s : CharSet) : Bool := s.ranges.all fun r => r.last ≤ 0x7F

/-! ## The written form -/

/-- The parts of a text between the occurrences of a mark. -/
def partsBetween (mark : Char) : List Char → List (List Char)
  | [] => [[]]
  | c :: cs =>
    if c = mark then [] :: partsBetween mark cs
    else
      match partsBetween mark cs with
      | [] => [[c]]
      | p :: ps => (c :: p) :: ps

/-- The value of a hexadecimal digit in upper case. -/
def hexDigit (c : Char) : Nat := if c ≤ '9' then c.toNat - '0'.toNat else c.toNat - 'A'.toNat + 10

/-- The value of a hexadecimal numeral. -/
def hexNumber (cs : List Char) : Nat := cs.foldl (fun n c => 16 * n + hexDigit c) 0

/-- A row of code points: from the first to the last by equal steps. -/
structure Row where
  first : Nat
  last : Nat
  step : Nat
deriving DecidableEq, Repr, Inhabited

/-- Reads the written form of a row: `41`, `41-5A` or `100-136/2`. -/
def Row.ofText (text : List Char) : Row :=
  let (span, step) := match partsBetween '/' text with
    | [span, step] => (span, hexNumber step)
    | _ => (text, 1)
  match partsBetween '-' span with
  | [first, last] => ⟨hexNumber first, hexNumber last, step⟩
  | _ => ⟨hexNumber span, hexNumber span, step⟩

/-- The ranges of a row: one range if its step is one, else one for each code point. -/
def Row.ranges (r : Row) : List Range :=
  if r.step ≤ 1 then [⟨r.first, r.last⟩]
  else
    (List.range ((r.last - r.first) / r.step + 1)).map fun i =>
      ⟨r.first + i * r.step, r.first + i * r.step⟩

/-- The words of a table: what stands between blanks and line ends. -/
def tableWords (text : String) : List (List Char) :=
  ((partsBetween '\n' text.toList).flatMap (partsBetween ' ')).filter fun word => !word.isEmpty

/-- Reads the written form of a set: the rows of its code points, parted by blanks. -/
def ofTable (text : String) : CharSet :=
  ofRanges ((tableWords text).flatMap fun word => (Row.ofText word).ranges)

end CharSet

end JsonQuery.Unicode
