import ChangeApply.Json.Reader
import ChangeApply.Wire.Kind

set_option autoImplicit false

namespace ChangeApply

structure Settings where
  url : String
  poolSize : Nat
  acquireMillis : Nat
  policy : Policy
  hint : Hint
  jobListing : String
deriving DecidableEq

inductive ReadFailure where
  | notFound
  | isDirectory
  | notUtf8
deriving DecidableEq

def ReadFailure.reason : ReadFailure → String
  | .notFound => "No such file or directory (os error 2)"
  | .isDirectory => "Is a directory (os error 21)"
  | .notUtf8 => "stream did not contain valid UTF-8"

inductive SettingsError where
  | malformed
  | unreadable (path : String) (failure : ReadFailure)
deriving DecidableEq

def SettingsError.message? : SettingsError → Option String
  | .malformed => none
  | .unreadable path failure => some ("cannot read config " ++ path ++ ": " ++ failure.reason)

namespace Settings

def initial : Settings where
  url := ""
  poolSize := 8
  acquireMillis := 30000
  policy := .rowByRow
  hint := .plain
  jobListing := "SHOW FULL DDL"

def fieldNames : List String :=
  ["database_url", "max_connections", "acquire_timeout_ms", "apply_policy", "ddl_hint",
   "ddl_status_query"]

def overlay? (base : Settings) (fields : Wire.Fields) : Option Settings := do
  let url ← Wire.defaulted fields "database_url" base.url Json.text?
  let poolSize ← Wire.defaulted fields "max_connections" base.poolSize (Json.natural? 4294967295)
  let acquireMillis ← Wire.defaulted fields "acquire_timeout_ms" base.acquireMillis
    (Json.natural? 18446744073709551615)
  let policy ← Wire.defaulted fields "apply_policy" base.policy Policy.ofJson?
  let hint ← Wire.defaulted fields "ddl_hint" base.hint Hint.ofJson?
  let jobListing ← Wire.defaulted fields "ddl_status_query" base.jobListing Json.text?
  return ⟨url, poolSize, acquireMillis, policy, hint, jobListing⟩

def ofJson? (json : Json) : Option Settings := (Wire.fields? fieldNames json).bind initial.overlay?

def read (text : String) : Option Settings := (Json.read text).bind ofJson?

def ofFile (path : String) (content : Except ReadFailure ByteArray) :
    Except SettingsError Settings :=
  match content with
  | .error failure => .error (.unreadable path failure)
  | .ok bytes =>
    match String.fromUTF8? bytes with
    | none => .error (.unreadable path .notUtf8)
    | some text =>
      match read text with
      | some settings => .ok settings
      | none => .error .malformed

def acquireTimeout (settings : Settings) : Nat × Nat :=
  (settings.acquireMillis / 1000, settings.acquireMillis % 1000 * 1000000)

end Settings

end ChangeApply
