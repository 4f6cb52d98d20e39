import ChangeApply.Log.FieldTest
import ChangeApply.Log.Verbosity
import ChangeApply.Text.Alphanumeric
import ChangeApply.Text.CharRange
import ChangeApply.Text.Utf8

set_option autoImplicit false

/- Directives of a filter: a level for the events whose target starts with a given text,
   or for what happens in spans of a given name or with a given field. -/
namespace ChangeApply.Log

structure Directive where
  target : Option String
  span : Option String
  field : Option FieldTest
  verbosity : Verbosity
deriving DecidableEq

inductive FilterError where
  | unknownLevel
  | malformed
  | badPattern (fault : Pattern.Fault)
deriving DecidableEq

def FilterError.message : FilterError → String
  | .unknownLevel =>
    "error parsing level filter: expected one of \"off\", \"error\", \"warn\", \"info\", \"debug\", \"trace\", or a number 0-5"
  | .malformed => "invalid filter directive"
  | .badPattern fault => "invalid field filter: " ++ fault.message

namespace Directive

structure Mark where
  sign : Char
  place : Nat
  rest : List Char

def mark? (signs : List Char) : Nat → List Char → Option Mark
  | _, [] => none
  | place, c :: rest =>
    if signs.contains c then some ⟨c, place, rest⟩ else mark? signs (place + c.utf8Size) rest

def canStart (c : Char) : Bool :=
  Alphanumeric.isAlphanumeric c || c = '-' || c = ':' || c = '_'

def readLevel (level : List Char) : Except FilterError Verbosity :=
  match level, Verbosity.parse level with
  | [], _ => .ok .trace
  | _, some verbosity => .ok verbosity
  | _, none => .error .unknownLevel

def spannedLevel (text : List Char) (place : Nat) : List Char → Except FilterError Verbosity
  | [] => .ok .trace
  | '=' :: _ => readLevel (Utf8.drop (place + 1) text)
  | _ => .error .malformed

def readField (field : List Char) : Except FilterError FieldTest :=
  match field, FieldTest.parse field with
  | [], _ => .error .malformed
  | _, .ok test => .ok test
  | _, .error fault => .error (.badPattern fault)

def withField (text : List Char) (target span : Option String) (place : Nat) (rest : List Char) :
    Except FilterError Directive :=
  match mark? ['}'] place rest with
  | none => .error .malformed
  | some close => do
    let field ← readField (Utf8.between place close.place text)
    match close.rest with
    | ']' :: rest =>
      let verbosity ← spannedLevel text (close.place + 2) rest
      return ⟨target, span, some field, verbosity⟩
    | _ => .error .malformed

def withSpan (text : List Char) (target : Option String) (place : Nat) (rest : List Char) :
    Except FilterError Directive :=
  match mark? [']', '{'] place rest with
  | none => .error .malformed
  | some close =>
    let span := String.ofList (Utf8.between place close.place text)
    if close.sign = ']' then do
      let verbosity ← spannedLevel text (close.place + 1) close.rest
      return ⟨target, some span, none, verbosity⟩
    else
      withField text target (if span.isEmpty then none else some span) (close.place + 1) close.rest

-- A directive is a level alone, a target alone, or a target and a level; a span in
-- brackets may stand behind the target. Signs are looked for in the trimmed text, and
-- the text is cut at their places before it was trimmed.
def parse (text : List Char) : Except FilterError Directive :=
  match Blank.trim text with
  | [] => .error .malformed
  | '[' :: rest => withSpan text none 1 rest
  | first :: rest =>
    if canStart first then
      match mark? ['=', '['] 0 (first :: rest) with
      | none =>
        match Verbosity.parse text with
        | some verbosity => .ok ⟨none, none, none, verbosity⟩
        | none => .ok ⟨some (String.ofList text), none, none, .trace⟩
      | some mark =>
        let target := some (String.ofList (Utf8.take mark.place text))
        if mark.sign = '=' then do
          let verbosity ← readLevel (Utf8.drop (mark.place + 1) text)
          return ⟨target, none, none, verbosity⟩
        else withSpan text target (mark.place + 1) mark.rest
    else .error .malformed

def spanText (directive : Directive) : String :=
  match directive.span, directive.field with
  | none, none => ""
  | span, none => "[" ++ span.getD "" ++ "]"
  | span, some field => "[" ++ span.getD "" ++ "\x7b" ++ field.text ++ "\x7d]"

def text (directive : Directive) : String :=
  let scope := directive.target.getD "" ++ directive.spanText
  if scope.isEmpty then directive.verbosity.name
  else scope ++ "=" ++ directive.verbosity.name

def isSpanned (directive : Directive) : Bool :=
  directive.span.isSome || directive.field.isSome

def isForEvents (directive : Directive) : Bool :=
  directive.span.isNone && directive.field.all fun field => field.value.isNone

def optionOrder {α : Type} (order : α → α → Ordering) : Option α → Option α → Ordering
  | none, none => .eq
  | none, some _ => .lt
  | some _, none => .gt
  | some left, some right => order left right

def order (left right : Directive) : Ordering :=
  let size (directive : Directive) := directive.target.map String.utf8ByteSize
  (optionOrder compare (size left) (size right)).then <|
    (compare left.span.isSome right.span.isSome).then <|
    (compare left.field.isSome right.field.isSome).then <|
    (optionOrder compare left.target right.target).then <|
    (optionOrder compare left.span right.span).then <|
    optionOrder FieldTest.order left.field right.field

def matchesEvent (directive : Directive) (event : Event) : Bool :=
  (directive.target.all fun start => start.toList.isPrefixOf event.target.name.toList) &&
    directive.field.all fun field =>
      field.name = "message" || event.fields.any fun member => member.1 = field.name

end Directive

end ChangeApply.Log
