import ChangeApply.Log.Event

set_option autoImplicit false

namespace ChangeApply

def Task.shown (name : String) : String :=
  "ApplyContext \x7b task_id: " ++ Quoted.quote name ++ ", .. \x7d"

inductive Counter where
  | statements (ok : Bool)
  | transactions (ok : Bool)
deriving DecidableEq

namespace Counter

def outcome (ok : Bool) : String := if ok then "ok" else "error"

def name : Counter → String
  | .statements ok => "rpl_apply_statements_total\x7boutcome=" ++ outcome ok ++ "\x7d"
  | .transactions ok => "rpl_apply_transactions_total\x7boutcome=" ++ outcome ok ++ "\x7d"

def all : List Counter :=
  [.statements true, .statements false, .transactions true, .transactions false]

end Counter

inductive Report where
  | logged (event : Log.Event)
  | counted (counter : Counter)
  | failed (task message : String)
deriving DecidableEq

namespace Report

def event? : Report → Option Log.Event
  | .logged event => some event
  | _ => none

def counter? : Report → Option Counter
  | .counted counter => some counter
  | _ => none

def failure? : Report → Option (String × String)
  | .failed task message => some (task, message)
  | _ => none

end Report

end ChangeApply
