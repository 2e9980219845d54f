/-!
# Canonical codes

* `Huffman.Tree` — a code as a tree; a bit of zero goes left.
* `Huffman.Tree.ofLengths?` — the canonical code in which symbol `i` has the `i`-th length, zero
  standing for an unused symbol: shorter codes come first and, among equals, smaller symbols.
* `Huffman.Tree.decode?` — the symbol at the start of a row of bits.
-/

namespace JsonQuery.Huffman

/-- A code as a tree. -/
inductive Tree where
  | unused
  | leaf (symbol : Nat)
  | node (zero one : Tree)

namespace Tree

/-- Joins neighbours to nodes; a last one without a neighbour is joined to nothing. -/
def join : List Tree → List Tree
  | a :: b :: rest => node a b :: join rest
  | [a] => [node a unused]
  | [] => []

/-- The symbols of a length, in order. -/
def symbolsOf (lengths : List Nat) (length : Nat) : List Tree :=
  (lengths.zipIdx.filter (·.1 == length)).map fun p => leaf p.2

/-- The trees that stand `length` below the root: the symbols of this length, then the joined trees
of the next.  `more` levels lie below. -/
def level (lengths : List Nat) (length : Nat) : Nat → List Tree
  | 0 => symbolsOf lengths length
  | more + 1 => symbolsOf lengths length ++ join (level lengths (length + 1) more)

/-- The share of all codes of fifteen bits that the codes take up. -/
def weight (lengths : List Nat) : Nat :=
  (lengths.filter (· != 0)).foldl (fun sum l => sum + Nat.pow 2 (15 - l)) 0

/-- Whether no symbol is used, or one alone and with a code of one bit. -/
def isSparse (lengths : List Nat) : Bool :=
  match lengths.filter (· != 0) with
  | [] => true
  | [l] => l == 1
  | _ => false

/-- The canonical code of a list of lengths up to fifteen.  It must use up all bit patterns; where
`sparse` allows it, it may also have no symbol at all, or a single one of one bit. -/
def ofLengths? (sparse : Bool) (lengths : List Nat) : Option Tree :=
  if weight lengths = Nat.pow 2 15 || (sparse && isSparse lengths) then
    match join (level lengths 1 14) with
    | [] => some unused
    | [root] => some root
    | _ => none
  else none

/-- The symbol at the start of a row of bits, and the rest. -/
def decode? : Tree → List Bool → Option (Nat × List Bool)
  | unused, _ => none
  | leaf s, bits => some (s, bits)
  | node _ _, [] => none
  | node zero one, b :: bits => if b then one.decode? bits else zero.decode? bits

end Tree

end JsonQuery.Huffman
