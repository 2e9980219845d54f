import JsonQuery.Unicode.Cluster

/-!
# Grapheme clusters

* `Text.BreakClass` — the classes of characters by which clusters are told apart.
* `Text.ClusterState` — what the characters so far say about a boundary behind them;
  `ClusterState.joins` decides whether the next character stays in the same cluster.
* `Text.clusters` — a text cut into extended grapheme clusters.
* `flatten_clusters` — nothing is lost.
-/

namespace JsonQuery.Text

open Unicode (CharSet)
open Unicode.Cluster (pictograph linker consonant)

/-- The classes of characters by which clusters are told apart. -/
inductive BreakClass where
  | control
  | carriageReturn
  | lineFeed
  | extend
  | joiner
  | spacingMark
  | preposed
  | leading
  | vowel
  | trailing
  | openSyllable
  | closedSyllable
  | region
  | other
deriving DecidableEq, Repr

namespace BreakClass

/-- The classes with their members. -/
def members : List (BreakClass × CharSet) := [
  (control, Unicode.GraphemeBreak.control),
  (carriageReturn, Unicode.GraphemeBreak.carriageReturn),
  (lineFeed, Unicode.GraphemeBreak.lineFeed),
  (extend, Unicode.Cluster.extend),
  (joiner, Unicode.GraphemeBreak.joiner),
  (spacingMark, Unicode.Cluster.spacingMark),
  (preposed, Unicode.Cluster.prepend),
  (leading, Unicode.GraphemeBreak.leading),
  (vowel, Unicode.GraphemeBreak.vowel),
  (trailing, Unicode.GraphemeBreak.trailing),
  (openSyllable, Unicode.GraphemeBreak.openSyllable),
  (closedSyllable, Unicode.GraphemeBreak.closedSyllable),
  (region, Unicode.GraphemeBreak.regionalIndicator)
]

/-- The class of a character. -/
def ofChar (c : Char) : BreakClass :=
  match members.find? fun m => m.2.contains c with
  | some m => m.1
  | none => other

/-- The characters that stand alone. -/
def isolated : BreakClass → Bool
  | control | carriageReturn | lineFeed => true
  | _ => false

/-- The pairs that form one Hangul syllable. -/
def joinSyllable : BreakClass → BreakClass → Bool
  | leading, leading | leading, vowel | leading, openSyllable | leading, closedSyllable => true
  | openSyllable, vowel | openSyllable, trailing | vowel, vowel | vowel, trailing => true
  | closedSyllable, trailing | trailing, trailing => true
  | _, _ => false

end BreakClass

/-- How far the characters so far lead to a conjunct: not at all, a consonant with signs behind it,
or one with a linker among these signs. -/
inductive Conjunct where
  | none
  | consonant
  | linked
deriving DecidableEq, Repr

/-- Whether the characters so far end in a picture: with signs behind it, or tied by a joiner. -/
inductive Picture where
  | none
  | shown
  | tied
deriving DecidableEq, Repr

/-- What the characters so far say about a boundary behind them. -/
structure ClusterState where
  /-- The class of the last character. -/
  last : BreakClass
  /-- Whether an odd number of regional indicators stands at the end. -/
  oddRegions : Bool
  picture : Picture
  conjunct : Conjunct

namespace ClusterState

/-- The start of a text. -/
def start : ClusterState := ⟨.other, false, .none, .none⟩

/-- The picture state behind one more character. -/
def stepPicture (s : Picture) (k : BreakClass) (c : Char) : Picture :=
  if pictograph.contains c then .shown
  else
    match s, k with
    | .shown, .extend => .shown
    | .shown, .joiner => .tied
    | _, _ => .none

/-- The conjunct state behind one more character. -/
def stepConjunct (s : Conjunct) (k : BreakClass) (c : Char) : Conjunct :=
  if consonant.contains c then .consonant
  else if s = .none then .none
  else if linker.contains c then .linked
  else if (k = .extend ∨ k = .joiner) ∧ c ≠ '\u200c' then s
  else .none

/-- The state behind one more character. -/
def step (s : ClusterState) (c : Char) : ClusterState :=
  let k := BreakClass.ofChar c
  { last := k
    oddRegions := k == .region && !s.oddRegions
    picture := stepPicture s.picture k c
    conjunct := stepConjunct s.conjunct k c }

/-- Whether the next character belongs to the same cluster as the last. -/
def joins (s : ClusterState) (c : Char) : Bool :=
  let k := BreakClass.ofChar c
  if s.last = .carriageReturn ∧ k = .lineFeed then true
  else if s.last.isolated || k.isolated then false
  else
    s.last.joinSyllable k ||
    k == .extend || k == .joiner || k == .spacingMark ||
    s.last == .preposed ||
    (s.conjunct == .linked && consonant.contains c) ||
    (s.picture == .tied && pictograph.contains c) ||
    (s.oddRegions && k == .region)

end ClusterState

/-- The clusters of a text that goes on with `cs`; `opened` holds the characters of the cluster that
is not yet closed, the last one first. -/
def clustersFrom (s : ClusterState) (opened : List Char) : List Char → List (List Char)
  | [] => [opened.reverse]
  | c :: cs =>
    if s.joins c then clustersFrom (s.step c) (c :: opened) cs
    else opened.reverse :: clustersFrom (s.step c) [c] cs

/-- A text cut into extended grapheme clusters. -/
def clusters : List Char → List (List Char)
  | [] => []
  | c :: cs => clustersFrom (ClusterState.start.step c) [c] cs

theorem flatten_clustersFrom (s : ClusterState) (opened cs : List Char) :
    (clustersFrom s opened cs).flatten = opened.reverse ++ cs := by
  induction cs generalizing s opened with
  | nil => simp [clustersFrom]
  | cons c cs ih =>
    unfold clustersFrom
    split <;> simp [ih]

/-- Cutting a text loses nothing. -/
theorem flatten_clusters (cs : List Char) : (clusters cs).flatten = cs := by
  cases cs with
  | nil => rfl
  | cons c cs => simp [clusters, flatten_clustersFrom]

end JsonQuery.Text
