import ChangeApply.Identifier

set_option autoImplicit false

/- The shapes of the statements on rows, and their text. Names are quoted into the
   text; values never are, a question mark stands for each. -/
namespace ChangeApply

inductive InsertVerb where
  | plain
  | ignore
  | replace
deriving DecidableEq

def InsertVerb.text : InsertVerb → String
  | .plain => "INSERT INTO"
  | .ignore => "INSERT IGNORE INTO"
  | .replace => "REPLACE INTO"

inductive Term where
  | equals (column : String)
  | isNull (column : String)
deriving DecidableEq

structure TableName where
  schema : String
  name : String
deriving DecidableEq

inductive Sql where
  | insert (verb : InsertVerb) (table : TableName) (columns : List String) (rows : Nat)
  | upsert (table : TableName) (columns : List String)
  | delete (table : TableName) (terms : List Term)
  | deleteIn (table : TableName) (columns : List String) (rows : Nat)
  | update (table : TableName) (columns : List String) (terms : List Term)
  | select (table : TableName) (terms : List Term)
deriving DecidableEq

namespace Sql

def joined {α : Type} (separator : List α) : List (List α) → List α
  | [] => []
  | [item] => item
  | item :: rest => item ++ separator ++ joined separator rest

def commas (items : List (List Char)) : List Char := joined [','] items

def enclosed (inner : List Char) : List Char := '(' :: inner ++ [')']

def quoted (column : String) : List Char := Identifier.encode column.toList

def nameList (columns : List String) : List Char := commas (columns.map quoted)

def assigned (column : String) : List Char := quoted column ++ ['=', '?']

def assignedList (columns : List String) : List Char := commas (columns.map assigned)

def marks (count : Nat) : List Char := commas (List.replicate count ['?'])

def tuples (width rows : Nat) : List Char := commas (List.replicate rows (enclosed (marks width)))

def term : Term → List Char
  | .equals column => assigned column
  | .isNull column => quoted column ++ " IS NULL".toList

def condition (terms : List Term) : List Char := joined " AND ".toList (terms.map term)

def tableText (table : TableName) : List Char :=
  Identifier.encodeQualified table.schema table.name

def render : Sql → List Char
  | .insert verb table columns rows =>
    verb.text.toList ++ ' ' :: tableText table ++ enclosed (nameList columns) ++
      " VALUES ".toList ++ tuples columns.length rows
  | .upsert table columns =>
    "INSERT INTO ".toList ++ tableText table ++ enclosed (nameList columns) ++
      " VALUES ".toList ++ enclosed (marks columns.length) ++
      " ON DUPLICATE KEY UPDATE ".toList ++ assignedList columns
  | .delete table terms =>
    "DELETE FROM ".toList ++ tableText table ++ " WHERE ".toList ++ condition terms
  | .deleteIn table columns rows =>
    "DELETE FROM ".toList ++ tableText table ++ " WHERE ".toList ++
      enclosed (nameList columns) ++ " in ".toList ++ enclosed (tuples columns.length rows)
  | .update table columns terms =>
    "UPDATE ".toList ++ tableText table ++ " SET ".toList ++ assignedList columns ++
      " WHERE ".toList ++ condition terms
  | .select table terms =>
    "SELECT * FROM ".toList ++ tableText table ++ " WHERE ".toList ++ condition terms

def text (sql : Sql) : String := String.ofList sql.render

end Sql

end ChangeApply
