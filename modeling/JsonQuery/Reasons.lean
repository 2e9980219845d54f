/-!
# Reasons

* `Reasons` — what is said about a text that cannot be read.
* `Reasons.plain` — reasons that tell the format only.
-/

namespace JsonQuery

/-- What is said about a text that cannot be read.  The words are those of whatever reads the format and go into
messages as they are; nothing else depends on them. -/
structure Reasons where
  /-- Why a text is no JSON text. -/
  json : String → String
  /-- Why a text is no base64 text. -/
  base64 : String → String
  /-- Why bytes are no archive. -/
  archive : List UInt8 → String
  /-- Why a text is no regular expression. -/
  pattern : String → String

/-- Reasons that tell the format only. -/
def Reasons.plain : Reasons where
  json _ := "not a JSON text"
  base64 _ := "not a base64 text"
  archive _ := "not a gzip archive"
  pattern _ := "not a regular expression"

end JsonQuery
