import JsonQuery.Eval.Argument

/-!
# Functions by name

* `Function` — a name, further names, the number of arguments and a body.
* `Registry` — functions under all their names.
* `Registry.register` — adds a function under its names, replacing what had them.
* `Registry.find?`, `Registry.names`, `Registry.size` — look-up, all names in the order of code
  points, and their number.
-/

namespace JsonQuery

/-- A function that queries can call. -/
structure Function where
  name : String
  aliases : List String
  arity : Arity
  body : Body

/-- Functions under all their names, each name once. -/
structure Registry where
  entries : List (String × Function)

namespace Registry

/-- No functions. -/
def empty : Registry := ⟨[]⟩

/-- Puts a function under one name. -/
def put (name : String) (f : Function) : List (String × Function) → List (String × Function)
  | [] => [(name, f)]
  | (n, g) :: rest => if n = name then (name, f) :: rest else (n, g) :: put name f rest

/-- Adds a function under its names, replacing what had them. -/
def register (r : Registry) (f : Function) : Registry :=
  ⟨(f.name :: f.aliases).foldl (fun entries name => put name f entries) r.entries⟩

/-- The registry of these functions; a later one replaces an earlier one of the same name. -/
def ofList (fs : List Function) : Registry := fs.foldl register empty

/-- The function of a name. -/
def find? (r : Registry) (name : String) : Option Function := r.entries.lookup name

/-- The number of arguments of the function of a name. -/
def arity? (r : Registry) (name : String) : Option Arity := (r.find? name).map Function.arity

/-- The number of names. -/
def size (r : Registry) : Nat := r.entries.length

/-- All names in the order of code points. -/
def names (r : Registry) : List String := (r.entries.map Prod.fst).mergeSort (· ≤ ·)

end Registry

end JsonQuery
