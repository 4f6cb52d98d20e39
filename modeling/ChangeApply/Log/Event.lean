import ChangeApply.Ddl.Job
import ChangeApply.Text.Quoted

set_option autoImplicit false

namespace ChangeApply.Log

inductive Level where
  | error
  | warn
  | info
  | debug
deriving DecidableEq

namespace Level

def name : Level → String
  | .error => "ERROR"
  | .warn => "WARN"
  | .info => "INFO"
  | .debug => "DEBUG"

def rank : Level → Nat
  | .error => 1
  | .warn => 2
  | .info => 3
  | .debug => 4

end Level

inductive Target where
  | executor
  | ddlTracker
  | logging
  | dml
deriving DecidableEq

def Target.name : Target → String
  | .executor => "rpl_applier::executor"
  | .ddlTracker => "rpl_applier::ddl_tracker"
  | .logging => "rpl_applier::logging"
  | .dml => "rpl_apply_core::dml"

inductive Format where
  | compact
  | json
deriving DecidableEq

namespace Format

def name : Format → String
  | .compact => "Compact"
  | .json => "Json"

def parse (text : String) : Except String Format :=
  match Ascii.lower text with
  | "compact" => .ok .compact
  | "text" => .ok .compact
  | "json" => .ok .json
  | "jsonl" => .ok .json
  | other => .error other

end Format

inductive Field where
  | quoted (text : String)
  | bare (text : String)
  | number (value : Nat)
deriving DecidableEq

namespace Field

def text : Field → String
  | .quoted text => text
  | .bare text => text
  | .number value => Numeral.text value

def shown : Field → String
  | .quoted text => Quoted.quote text
  | .bare text => text
  | .number value => Numeral.text value

end Field

inductive Event where
  | loggingInitialized (level : String) (format : Format)
  | rowUnchanged (table : String) (row : Nat)
  | executing (task sql params : String)
  | statementFailed (task table sql params : String)
  | applyFailed (task table error : String)
  | rollbackFailed (task table error : String)
  | releaseFailed (reporter : Target) (error : String)
  | dispatching (task schema token : String)
  | stateQueryFailed (token error : String)
  | stateResolved (token : String) (jobs : Nat) (outcome : JobOutcome)
deriving DecidableEq

namespace Event

def level : Event → Level
  | .loggingInitialized _ _ => .debug
  | .rowUnchanged _ _ => .debug
  | .executing _ _ _ => .debug
  | .statementFailed _ _ _ _ => .error
  | .applyFailed _ _ _ => .error
  | .rollbackFailed _ _ _ => .error
  | .releaseFailed _ _ => .warn
  | .dispatching _ _ _ => .info
  | .stateQueryFailed _ _ => .error
  | .stateResolved _ _ _ => .debug

def target : Event → Target
  | .loggingInitialized _ _ => .logging
  | .rowUnchanged _ _ => .dml
  | .releaseFailed reporter _ => reporter
  | .stateQueryFailed _ _ => .ddlTracker
  | .stateResolved _ _ _ => .ddlTracker
  | _ => .executor

def message : Event → String
  | .loggingInitialized _ _ => "logging initialized"
  | .rowUnchanged _ _ => "update row has no changed columns, skipped"
  | .executing _ _ _ => "executing"
  | .statementFailed _ _ _ _ => "statement failed"
  | .applyFailed _ _ _ => "apply failed"
  | .rollbackFailed _ _ _ => "rollback failed"
  | .releaseFailed _ _ => "failed to release connection"
  | .dispatching _ _ _ => "dispatching DDL"
  | .stateQueryFailed _ _ => "DDL state query failed"
  | .stateResolved _ _ _ => "DDL state resolved"

def fields : Event → List (String × Field)
  | .loggingInitialized level format =>
    [("level", .quoted level), ("format", .bare format.name)]
  | .rowUnchanged table row => [("table", .bare table), ("row", .number row)]
  | .executing task sql params =>
    [("task_id", .bare task), ("sql", .quoted sql), ("params", .bare params)]
  | .statementFailed task table sql params =>
    [("task_id", .bare task), ("table", .quoted table), ("sql", .quoted sql),
     ("params", .bare params)]
  | .applyFailed task table error =>
    [("task_id", .bare task), ("table", .quoted table), ("error", .bare error)]
  | .rollbackFailed task table error =>
    [("task_id", .bare task), ("table", .quoted table), ("error", .bare error)]
  | .releaseFailed _ error => [("error", .bare error)]
  | .dispatching task schema token =>
    [("task_id", .bare task), ("schema", .bare schema), ("token", .bare token)]
  | .stateQueryFailed token error => [("token", .quoted token), ("error", .bare error)]
  | .stateResolved token jobs outcome =>
    [("token", .quoted token), ("jobs", .number jobs), ("outcome", .bare outcome.name)]

end Event

end ChangeApply.Log
