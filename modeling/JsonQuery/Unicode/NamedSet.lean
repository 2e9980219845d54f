import JsonQuery.Unicode.CharSet

/-!
# Sets of characters by name

* `Unicode.NamedSet` — a set of characters with the names it goes by.
* `Unicode.normalName` — what two spellings of a name have in common.
* `Unicode.find?` — the set that goes by a name.
-/

namespace JsonQuery.Unicode

/-- A set of characters with the names it goes by, all in normal form. -/
structure NamedSet where
  names : List String
  chars : CharSet

/-- The set that goes by a name in normal form. -/
def find? (sets : List NamedSet) (name : String) : Option CharSet :=
  (sets.find? fun s => s.names.contains name).map NamedSet.chars

/-- The characters of a name that count: the seven-bit ones, in lower case, without blanks,
underscores and hyphens. -/
def countedCharacters (cs : List Char) : List Char :=
  (cs.filter fun c => c.toNat ≤ 0x7F && c != ' ' && c != '_' && c != '-').map Char.toLower

/-- The normal form of a name.  A leading `is` does not count, except in the abbreviation `isc`. -/
def normalName (cs : List Char) : String :=
  match cs with
  | i :: s :: rest =>
    if i.toLower = 'i' ∧ s.toLower = 's' then
      match countedCharacters rest with
      | ['c'] => "isc"
      | name => String.ofList name
    else String.ofList (countedCharacters cs)
  | cs => String.ofList (countedCharacters cs)

end JsonQuery.Unicode
