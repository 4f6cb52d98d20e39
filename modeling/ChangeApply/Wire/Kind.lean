import ChangeApply.Change.Plan
import ChangeApply.Ddl.Job
import ChangeApply.Wire.Record

set_option autoImplicit false

namespace ChangeApply

namespace RowAction

def all : List RowAction := [.insert, .update, .delete]

def name : RowAction → String
  | .insert => "Insert"
  | .update => "Update"
  | .delete => "Delete"

def toJson (action : RowAction) : Json := Json.ofText action.name

def ofJson? : Json → Option RowAction := Wire.oneOf? all name

end RowAction

namespace DdlKind

def all : List DdlKind :=
  [.create, .drop, .alter, .rename, .truncate, .createIndex, .dropIndex, .createDatabase,
   .dropDatabase]

def name : DdlKind → String
  | .create => "Create"
  | .drop => "Drop"
  | .alter => "Alter"
  | .rename => "Rename"
  | .truncate => "Truncate"
  | .createIndex => "CreateIndex"
  | .dropIndex => "DropIndex"
  | .createDatabase => "CreateDatabase"
  | .dropDatabase => "DropDatabase"

def toJson (kind : DdlKind) : Json := Json.ofText kind.name

def ofJson? : Json → Option DdlKind := Wire.oneOf? all name

end DdlKind

namespace EventKind

def toJson : EventKind → Json
  | .row action => action.toJson
  | .ddl kind => Wire.tagged "Ddl" kind.toJson

def ofJson? (json : Json) : Option EventKind :=
  match Wire.variant? json with
  | some ("Ddl", content) => (content.bind DdlKind.ofJson?).map .ddl
  | _ => (RowAction.ofJson? json).map .row

end EventKind

namespace Hint

def all : List Hint := [.plain, .asynchronous]

def name : Hint → String
  | .plain => "Tso"
  | .asynchronous => "PureAsync"

def toJson (hint : Hint) : Json := Json.ofText hint.name

def ofJson? : Json → Option Hint := Wire.oneOf? all name

end Hint

namespace JobOutcome

def all : List JobOutcome := [.running, .failed, .succeeded]

def toJson (outcome : JobOutcome) : Json := Json.ofText outcome.name

def ofJson? : Json → Option JobOutcome := Wire.oneOf? all name

end JobOutcome

namespace InsertVerb

def all : List InsertVerb := [.plain, .ignore, .replace]

def name : InsertVerb → String
  | .plain => "Simple"
  | .ignore => "Ignore"
  | .replace => "Replace"

def toJson (verb : InsertVerb) : Json := Json.ofText verb.name

def ofJson? : Json → Option InsertVerb := Wire.oneOf? all name

end InsertVerb

namespace Policy

def bare : List Policy := [.rowByRow, .replacing, .mergingReplace]

def name : Policy → String
  | .rowByRow => "PerRow"
  | .replacing => "DeleteThenInsert"
  | .merging _ => "Merge"
  | .mergingReplace => "MergeUpsert"

def toJson : Policy → Json
  | .merging verb => Wire.tagged "Merge" verb.toJson
  | policy => Json.ofText policy.name

def ofJson? (json : Json) : Option Policy :=
  match Wire.variant? json with
  | some ("Merge", content) => (content.bind InsertVerb.ofJson?).map .merging
  | _ => Wire.oneOf? bare name json

end Policy

end ChangeApply
