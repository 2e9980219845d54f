/-!
# Lines and columns

* `Position` — a line and a column, both counted from 1.
* `Position.step` — the position behind one character, given the character after it: a line feed
  ends a line, and so does a carriage return that no line feed follows.  A carriage return before
  a line feed takes no room, so the pair counts as one line break.
* `Position.along` — the position behind the first `n` characters of a text.
-/

namespace JsonQuery

/-- A place in a text: a line and a column, both counted from 1. -/
structure Position where
  line : Nat
  column : Nat
deriving DecidableEq, Repr

namespace Position

/-- The first character's place. -/
def start : Position := ⟨1, 1⟩

/-- The start of the next line. -/
def nextLine (p : Position) : Position := ⟨p.line + 1, 1⟩

/-- The place behind `c`, where `next` is the character that follows it (`advance`). -/
def step (p : Position) (c : Char) (next : Option Char) : Position :=
  if c = '\n' then p.nextLine
  else if c = '\r' then (if next = some '\n' then p else p.nextLine)
  else ⟨p.line, p.column + 1⟩

/-- The place behind the first `n` characters of `cs`. -/
def along (p : Position) : Nat → List Char → Position
  | 0, _ => p
  | _, [] => p
  | n + 1, c :: cs => (p.step c cs.head?).along n cs

@[simp] theorem along_zero (p : Position) (cs : List Char) : p.along 0 cs = p := by
  cases cs <;> rfl

@[simp] theorem along_nil (p : Position) (n : Nat) : p.along n [] = p := by
  cases n <;> rfl

@[simp] theorem along_succ_cons (p : Position) (n : Nat) (c : Char) (cs : List Char) :
    p.along (n + 1) (c :: cs) = (p.step c cs.head?).along n cs := rfl

/-- Walking on from where an earlier walk ended is one longer walk. -/
theorem along_add (p : Position) (m n : Nat) (cs : List Char) :
    p.along (m + n) cs = (p.along m cs).along n (cs.drop m) := by
  induction m generalizing p cs with
  | zero => simp
  | succ m ih =>
    cases cs with
    | nil => simp
    | cons c cs => rw [Nat.succ_add]; simp [ih]

end Position

end JsonQuery
