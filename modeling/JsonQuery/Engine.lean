import JsonQuery.Eval
import JsonQuery.Expr.Grammar
import JsonQuery.Library.Arrays
import JsonQuery.Library.Math
import JsonQuery.Library.Objects
import JsonQuery.Library.Payloads
import JsonQuery.Library.Strings
import JsonQuery.Text.Quoted

/-!
# Engines and queries

* `Library.functions` — the built-in functions, with those that unwrap payloads or without, and the reasons
  that the latter give.
* `Engine` — options and a registry; `Engine.ofOptions`, `Engine.register`.
* `Engine.compile` — a query that keeps the registry as it is at that time.
* `Query.search` — evaluates a query on a document; a soft failure becomes null.
* `Note.line` — a note as a line of a log.
-/

namespace JsonQuery

/-- The built-in functions, with those that unwrap payloads or without (`functions_map`). -/
def Library.functions (reasons : Reasons) (extensions : Bool) : Registry :=
  .ofList (math ++ strings ++ arrays ++ objects ++ if extensions then payloads reasons else [])

/-- Options of an engine: whether payload functions are known, and how deep queries may nest. -/
structure Options where
  extensions : Bool
  maxDepth : Nat
deriving DecidableEq, Repr

/-- Payload functions are known and queries may nest 256 deep. -/
def Options.standard : Options := ⟨true, 256⟩

/-- Options and a registry of functions. -/
structure Engine where
  options : Options
  registry : Registry

/-- A compiled query: its text, its expression, and the functions it was compiled with. -/
structure Query where
  source : String
  expr : Expr
  registry : Registry

namespace Engine

/-- The engine with these options and the built-in functions. -/
def ofOptions (reasons : Reasons) (options : Options) : Engine :=
  ⟨options, Library.functions reasons options.extensions⟩

/-- The engine with standard options. -/
def standard (reasons : Reasons) : Engine := ofOptions reasons .standard

/-- Adds a function for later queries. -/
def register (e : Engine) (f : Function) : Engine := { e with registry := e.registry.register f }

/-- Compiles a query. -/
def compile (e : Engine) (source : String) : Except ParseError Query :=
  match Expr.parse e.registry.arity? e.options.maxDepth source with
  | .ok expr => .ok ⟨source, expr, e.registry⟩
  | .error error => .error error

end Engine

namespace Query

/-- The value of a query on a document; a soft failure becomes null and is noted. -/
def search (q : Query) (document : Json) : Traced Json :=
  (q.expr.eval q.registry document).absorb .null (.collapsed q.source)

/-- Equality of text and expression. -/
def same (p q : Query) : Bool := p.source == q.source && p.expr.same q.expr

end Query

/-- Compiles a query and evaluates it; the first note tells of the compilation. -/
def Engine.search (e : Engine) (source : String) (document : Json) :
    Except ParseError (Traced Json) :=
  match e.compile source with
  | .error error => .error error
  | .ok q =>
    let outcome := q.search document
    .ok { outcome with notes := .compiled source :: outcome.notes }

/-- A note as a line of a log, with its level in front. -/
def Note.line : Note → String
  | compiled source => "trace: compiled JMESPath expression " ++ Text.quote source
  | absorbed function failure =>
    "debug: function " ++ function ++ "() failed, yielding null: " ++ failure.message
  | collapsed source failure =>
    "debug: " ++ Text.quote source ++ " evaluated to null: " ++ failure.message

end JsonQuery
