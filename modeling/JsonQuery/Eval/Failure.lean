import JsonQuery.Arity
import JsonQuery.Json

/-!
# Failures of an evaluation

* `TypeFault` — how a value does not fit.
* `Failure` — why an evaluation has no value, with its wording in `Failure.message`.
* `Failure.isHard` — hard failures reach the caller of a search; all others become null.
-/

namespace JsonQuery

/-- How a value does not fit.  A kind of none is that of an expression reference. -/
inductive TypeFault where
  | found (wanted : String) (kind : Option Kind)
  | expects (caller wanted : String) (kind : Kind)
  | noNumbers (caller : String)
  | notNumeric (text : String)
  | notConvertible (kind : Kind)
  | untypedReference
  | missingArgument
  | other (text : String)

/-- The name of a kind of argument. -/
def kindName : Option Kind → String
  | some k => k.name
  | none => "expression"

/-- The wording. -/
def TypeFault.message : TypeFault → String
  | found wanted kind => "expected " ++ wanted ++ ", found " ++ kindName kind
  | expects caller wanted kind => caller ++ " expects " ++ wanted ++ ", found " ++ kind.name
  | noNumbers caller => caller ++ " expects a non-empty array of numbers"
  | notNumeric text => "cannot convert \"" ++ text ++ "\" to a number"
  | notConvertible kind => "to_number cannot convert " ++ kind.name
  | untypedReference => "type is undefined for expression references"
  | missingArgument => "missing argument"
  | other text => text

/-- Why an evaluation has no value.  The last three carry what the reader of the format says. -/
inductive Failure where
  | type (fault : TypeFault)
  | zeroStep
  | strayReference
  | arity (message : String)
  | unknownFunction (name : String)
  | badBase64 (reason : String)
  | badJson (reason : String)
  | badArchive (reason : String)

namespace Failure

/-- The wording. -/
def message : Failure → String
  | type fault => fault.message
  | zeroStep => "slice step cannot be 0"
  | strayReference => "expression references are only valid as function arguments"
  | arity message => message
  | unknownFunction name => "Unknown function: " ++ name
  | badBase64 reason => "invalid base64: " ++ reason
  | badJson reason => "invalid JSON: " ++ reason
  | badArchive reason => "decompression failed: " ++ reason

/-- Whether the failure reaches the caller of a search (`is_hard`). -/
def isHard : Failure → Bool
  | type _ | zeroStep | strayReference => false
  | arity _ | unknownFunction _ | badBase64 _ | badJson _ | badArchive _ => true

end Failure

end JsonQuery
