import JsonQuery.Regex.Automaton
import JsonQuery.Regex.Match

/-!
# Regular expressions

* `Regex.read?` — what the text of a regular expression means.
* `Regex` — a regular expression: its text and what the text means.
* `Regex.compile?` — the regular expression of a text, if it has a meaning and is not too large.
* `Regex.isMatch` — whether it matches some part of a text.
* `Regex.eq_of_source_eq` — the text determines the expression.
-/

namespace JsonQuery

/-- What the text of a regular expression means, if it has a meaning and automata for it have
room. -/
def Regex.read? (text : List Char) : Option (Regex.Pattern Regex.Atom) := do
  let node ← Regex.Node.ofText? text
  let (p, _) ← node.pattern? .initial
  if Regex.Automaton.fits p then return p else none

/-- A regular expression: its text and what the text means. -/
structure Regex where
  source : String
  pattern : Regex.Pattern Regex.Atom
  pattern_eq : Regex.read? source.toList = some pattern

namespace Regex

/-- The regular expression of a text, if it has a meaning and is not too large. -/
def compile? (source : String) : Option Regex :=
  match h : read? source.toList with
  | some pattern => some ⟨source, pattern, h⟩
  | none => none

/-- Whether a regular expression matches some part of a text. -/
def isMatch (r : Regex) (text : String) : Bool := r.pattern.matchesText text.toList

theorem eq_of_source_eq {r s : Regex} (h : r.source = s.source) : r = s := by
  obtain ⟨source, p, hp⟩ := r
  obtain ⟨_, q, hq⟩ := s
  cases h
  obtain rfl : p = q := Option.some.inj (hp.symm.trans hq)
  rfl

theorem source_of_compile {source : String} {r : Regex} (h : compile? source = some r) :
    r.source = source := by
  unfold compile? at h
  split at h
  · cases h; rfl
  · cases h

end Regex

end JsonQuery
