import JsonQuery.Json.Reader
import JsonQuery.Payload.Base64
import JsonQuery.Payload.Gzip
import JsonQuery.Payload.Utf8
import JsonQuery.Reasons
import JsonQuery.Registry
import JsonQuery.Text.Blank

/-!
# Functions that unwrap payloads

JSON text that arrives inside a string, plain, in base64, or compressed and in base64.  What cannot
be decoded is a hard failure, with the reason that is given for it.

* `Library.payloads` — `json`, `base64` and `base64_gzip` and their second names.
-/

namespace JsonQuery.Library

variable (reasons : Reasons)

/-- The value of a JSON text (`parse_json`). -/
def readJson (text : String) : Except Failure Json :=
  match Json.parse? text with
  | some v => .ok v
  | none => .error (.badJson (reasons.json text))

/-- The bytes of a base64 text; blanks around it do not count (`decode_base64`). -/
def readBase64 (text : String) : Except Failure (List UInt8) :=
  match Base64.decode? (Text.trim text.toList) with
  | some bytes => .ok bytes
  | none => .error (.badBase64 (reasons.base64 (String.ofList (Text.trim text.toList))))

/-- The text of bytes in UTF-8. -/
def readUtf8 (fault : List UInt8 → Failure) (bytes : List UInt8) : Except Failure String :=
  match String.fromUTF8? ⟨bytes.toArray⟩ with
  | some text => .ok text
  | none => .error (fault bytes)

/-- The value of a JSON text; any other value as it is. -/
def json : Body := .plain fun args => do
  match ← (← Argument.nth args 0).asJson with
  | .string s => readJson reasons s
  | v => return v

/-- The value of a JSON text in base64. -/
def base64 : Body := .plain fun args => do
  let bytes ← readBase64 reasons (← (← Argument.nth args 0).asString)
  readJson reasons (← readUtf8 (fun bytes => .badJson (Utf8.describe bytes)) bytes)

/-- The content of an archive. -/
def unzip (bytes : List UInt8) : Except Failure (List UInt8) :=
  match Gzip.decode? bytes with
  | some content => .ok content
  | none => .error (.badArchive (reasons.archive bytes))

/-- What is said about content that is read as text and is none. -/
def notUtf8 : String := "stream did not contain valid UTF-8"

/-- The value of a compressed JSON text in base64. -/
def base64Gzip : Body := .plain fun args => do
  let bytes ← readBase64 reasons (← (← Argument.nth args 0).asString)
  readJson reasons (← readUtf8 (fun _ => .badArchive notUtf8) (← unzip reasons bytes))

/-- The functions that unwrap payloads. -/
def payloads : List Function :=
  [⟨"json", ["powertools_json"], .fixed 1, json reasons⟩,
   ⟨"base64", ["powertools_base64"], .fixed 1, base64 reasons⟩,
   ⟨"base64_gzip", ["powertools_base64_gzip"], .fixed 1, base64Gzip reasons⟩]

end JsonQuery.Library
