import ChangeApply.Json.Basic
import ChangeApply.Log.Filter

set_option autoImplicit false

namespace ChangeApply.Log

inductive SetupError where
  | unknownFormat (format : String)
  | badFilter (filter : String) (fault : FilterError)
  | alreadySet
deriving DecidableEq

def SetupError.message : SetupError → String
  | .unknownFormat format => "unknown log format '" ++ format ++ "'"
  | .badFilter filter fault => "invalid tracing filter '" ++ filter ++ "': " ++ fault.message
  | .alreadySet => "a global default trace dispatcher has already been set"

structure Setup where
  level : String
  format : Format
  filter : Filter
deriving DecidableEq

namespace Setup

def filterFor (level : String) (override : Option String) : Except SetupError Filter :=
  match Filter.build level override with
  | .ok filter => .ok filter
  | .error (text, fault) => .error (.badFilter text fault)

def formatOf (format : String) : Except SetupError Format :=
  match Format.parse format with
  | .ok format => .ok format
  | .error text => .error (.unknownFormat text)

def build (level format : String) (override : Option String) : Except SetupError Setup := do
  let format ← formatOf format
  let filter ← filterFor level override
  return ⟨level, format, filter⟩

def again (level : String) (override : Option String) : SetupError :=
  match filterFor level override with
  | .ok _ => .alreadySet
  | .error fault => fault

def firstEvent (setup : Setup) : Event := .loggingInitialized setup.level setup.format

end Setup

namespace Event

def fieldText (field : String × Field) : String := " " ++ field.1 ++ "=" ++ field.2.shown

def compactLine (event : Event) : String :=
  let level := event.level.name
  String.ofList (List.replicate (6 - level.length) ' ') ++ level ++ " " ++ event.target.name ++
    ": " ++ event.message ++ String.join (event.fields.map fieldText)

def fieldJson : Field → Json
  | .quoted text => Json.ofText text
  | .bare text => Json.ofText text
  | .number value => Json.ofNat value

def jsonLine (event : Event) : Json :=
  Json.record [
    ("level", Json.ofText event.level.name),
    ("target", Json.ofText event.target.name),
    ("fields", Json.record (("message", Json.ofText event.message) ::
      event.fields.map fun field => (field.1, fieldJson field.2)))]

def line (format : Format) (event : Event) : Json :=
  match format with
  | .compact => Json.ofText event.compactLine
  | .json => event.jsonLine

end Event

def Setup.lines (setup : Setup) (events : List Event) : List Json :=
  (events.filter setup.filter.admits).map (Event.line setup.format)

end ChangeApply.Log
