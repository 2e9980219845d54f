import JsonQuery.Engine

/-!
# The command line

* `CommandLine.run` — what the program prints and the code it ends with, given its arguments and
  its standard input: `CommandLine.query`, then `CommandLine.answer`.  The first argument is a query
  and the input is the document; whatever is wrong goes to the error stream and ends the program
  with code one.
-/

namespace JsonQuery.CommandLine

variable (reasons : Reasons)

/-- What a run of the program leaves. -/
structure Outcome where
  code : Nat
  stdout : String
  stderr : String
deriving DecidableEq, Repr

/-- A run that fails with a message. -/
def refuse (message : String) : Outcome := ⟨1, "", message ++ "\n"⟩

/-- The query of the arguments. -/
def query (args : List String) : Except Outcome Query :=
  match args with
  | [] => .error (refuse "First argument must be a JMESPath expression.")
  | source :: _ =>
    match (Engine.standard reasons).compile source with
    | .ok q => .ok q
    | .error e => .error (refuse (e.describe reasons))

/-- The document of an input; blanks around it do not count. -/
def document (input : ByteArray) : Except Outcome Json :=
  match String.fromUTF8? input with
  | none => .error (refuse Library.notUtf8)
  | some text =>
    match Json.read? (Text.trim text.toList) with
    | some v => .ok v
    | none =>
      .error (refuse ("Invalid JSON document: " ++ reasons.json (String.ofList (Text.trim text.toList))))

/-- What a query answers to an input. -/
def answer (q : Query) (input : ByteArray) : Outcome :=
  match document reasons input with
  | .error outcome => outcome
  | .ok v =>
    match (q.search v).result with
    | .ok result => ⟨0, result.pretty ++ "\n", ""⟩
    | .error failure => refuse failure.message

/-- A run of the program. -/
def run (args : List String) (input : ByteArray) : Outcome :=
  match query reasons args with
  | .error outcome => outcome
  | .ok q => answer reasons q input

end JsonQuery.CommandLine
