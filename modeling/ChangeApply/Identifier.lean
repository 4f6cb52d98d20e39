import ChangeApply.Text.Comparison

set_option autoImplicit false

namespace ChangeApply.Identifier

def backtick : Char := '\x60'

-- The row identifier that some servers add to tables without a key. It is hidden: its
-- values are never carried over.
def hiddenName : String := "__#alibaba_rds_row_id#__"

def isHidden (column : String) : Bool := Ascii.same column hiddenName

def escape : List Char → List Char
  | [] => []
  | c :: rest => if c = backtick then backtick :: backtick :: escape rest else c :: escape rest

def encode (name : List Char) : List Char := backtick :: escape name ++ [backtick]

def inside : List Char → Option (List Char × List Char)
  | [] => none
  | [c] => if c = backtick then some ([], []) else none
  | c :: next :: rest =>
    if c = backtick then
      if next = backtick then (inside rest).map fun found => (backtick :: found.1, found.2)
      else some ([], next :: rest)
    else (inside (next :: rest)).map fun found => (c :: found.1, found.2)

def scan : List Char → Option (List Char × List Char)
  | [] => none
  | c :: rest => if c = backtick then inside rest else none

def quote (name : String) : String := String.ofList (encode name.toList)

def encodeQualified (schema table : String) : List Char :=
  encode schema.toList ++ '.' :: encode table.toList

def qualified (schema table : String) : String := String.ofList (encodeQualified schema table)

end ChangeApply.Identifier
