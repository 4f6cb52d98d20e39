import ChangeApply.Proofs.Template

set_option autoImplicit false

/- Statements read back from their tokens, with the column that each placeholder is for.
   Nothing is known here about how a statement was written. -/
namespace ChangeApply

structure Slot where
  row : Nat
  column : String
  changed : Bool
deriving DecidableEq

structure Reading where
  sql : Sql
  slots : List Slot

namespace Reading

abbrev Reader (α : Type) := List Token → Option (α × List Token)

def expect : List Char → Reader Unit
  | [], tokens => some ((), tokens)
  | c :: text, .bare other :: tokens => if other = c then expect text tokens else none
  | _ :: _, _ => none

def separated {α : Type} (separator : List Char) (item : Reader α) (tokens : List Token) :
    Option (List α × List Token) :=
  match item tokens with
  | none => none
  | some (first, rest) =>
    match expect separator rest with
    | none => some ([first], rest)
    | some (_, more) =>
      if more.length < tokens.length then
        (separated separator item more).map fun found => (first :: found.1, found.2)
      else none
termination_by tokens.length

def tableName : Reader TableName
  | .name schema :: .bare '.' :: .name name :: rest => some (⟨String.ofList schema, String.ofList name⟩, rest)
  | _ => none

def column : Reader String
  | .name letters :: rest => some (String.ofList letters, rest)
  | _ => none

def assignment : Reader String := fun tokens => do
  let (column, tokens) ← column tokens
  let (_, tokens) ← expect ['=', '?'] tokens
  return (column, tokens)

def term : Reader Term := fun tokens => do
  let (column, tokens) ← column tokens
  match expect ['=', '?'] tokens with
  | some (_, tokens) => return (.equals column, tokens)
  | none =>
    let (_, tokens) ← expect " IS NULL".toList tokens
    return (.isNull column, tokens)

def tuple (columns : List String) : Reader (List String) := fun tokens => do
  let (_, tokens) ← expect ['('] tokens
  let (marks, tokens) ← separated [','] (expect ['?']) tokens
  let (_, tokens) ← expect [')'] tokens
  if marks.length = columns.length then return (columns, tokens) else none

def columnSlots (changed : Bool) (columns : List String) : List Slot := columns.map fun column => ⟨0, column, changed⟩

def tupleSlots (tuples : List (List String)) : List Slot :=
  tuples.zipIdx.flatMap fun entry => entry.1.map fun column => ⟨entry.2, column, false⟩

def termSlots (terms : List Term) : List Slot :=
  terms.filterMap fun
    | .equals column => some ⟨0, column, false⟩
    | .isNull _ => none

def finished (reading : Reading) (tokens : List Token) : Option Reading :=
  if tokens.isEmpty then some reading else none

def insertion (verb : InsertVerb) (tokens : List Token) : Option Reading := do
  let (_, tokens) ← expect (verb.text.toList ++ [' ']) tokens
  let (table, tokens) ← tableName tokens
  let (_, tokens) ← expect ['('] tokens
  let (columns, tokens) ← separated [','] column tokens
  let (_, tokens) ← expect ") VALUES ".toList tokens
  let (tuples, tokens) ← separated [','] (tuple columns) tokens
  if tokens.isEmpty then return ⟨.insert verb table columns tuples.length, tupleSlots tuples⟩
  else
    let (_, tokens) ← expect " ON DUPLICATE KEY UPDATE ".toList tokens
    let (assigned, tokens) ← separated [','] assignment tokens
    if verb = .plain ∧ tuples.length = 1 ∧ assigned = columns then
      finished ⟨.upsert table columns, tupleSlots tuples ++ columnSlots false assigned⟩ tokens
    else none

def deletion (tokens : List Token) : Option Reading := do
  let (_, tokens) ← expect "DELETE FROM ".toList tokens
  let (table, tokens) ← tableName tokens
  let (_, tokens) ← expect " WHERE ".toList tokens
  match expect ['('] tokens with
  | some (_, tokens) =>
    let (columns, tokens) ← separated [','] column tokens
    let (_, tokens) ← expect ") in (".toList tokens
    let (tuples, tokens) ← separated [','] (tuple columns) tokens
    let (_, tokens) ← expect [')'] tokens
    finished ⟨.deleteIn table columns tuples.length, tupleSlots tuples⟩ tokens
  | none =>
    let (terms, tokens) ← separated " AND ".toList term tokens
    finished ⟨.delete table terms, termSlots terms⟩ tokens

def update (tokens : List Token) : Option Reading := do
  let (_, tokens) ← expect "UPDATE ".toList tokens
  let (table, tokens) ← tableName tokens
  let (_, tokens) ← expect " SET ".toList tokens
  let (columns, tokens) ← separated [','] assignment tokens
  let (_, tokens) ← expect " WHERE ".toList tokens
  let (terms, tokens) ← separated " AND ".toList term tokens
  finished ⟨.update table columns terms, columnSlots true columns ++ termSlots terms⟩ tokens

def selection (tokens : List Token) : Option Reading := do
  let (_, tokens) ← expect "SELECT * FROM ".toList tokens
  let (table, tokens) ← tableName tokens
  let (_, tokens) ← expect " WHERE ".toList tokens
  let (terms, tokens) ← separated " AND ".toList term tokens
  finished ⟨.select table terms, termSlots terms⟩ tokens

def statement (tokens : List Token) : Option Reading :=
  insertion .plain tokens <|> insertion .ignore tokens <|> insertion .replace tokens <|> deletion tokens <|>
    update tokens <|> selection tokens

def Reads {α : Type} (reader : Reader α) (result : α) (tokens : List Token) : Prop :=
  ∀ rest, reader (tokens ++ rest) = some (result, rest)

def parts : List Char → List Char → Bool
  | c :: text, d :: other => c != d || parts text other
  | _, _ => false

theorem expect_reads (text : List Char) : Reads (expect text) () (Token.bares text) := by
  intro rest
  induction text with
  | nil => rw [Token.bares_nil]; rfl
  | cons c text ih => rw [Token.bares_cons, List.cons_append, expect, if_pos rfl, ih]

theorem expect_parted (text other : List Char) (rest : List Token) (parted : parts text other = true) :
    expect text (Token.bares other ++ rest) = none := by
  induction text generalizing other with
  | nil => cases parted
  | cons c text ih =>
    cases other with
    | nil => cases parted
    | cons d other =>
      rw [Token.bares_cons, List.cons_append, expect]
      by_cases same : d = c
      · rw [if_pos same]
        refine ih other ?_
        simpa [parts, same] using parted
      · rw [if_neg same]

theorem expect_end (text : List Char) (some_text : text ≠ []) : expect text [] = none := by
  cases text with
  | nil => exact absurd rfl some_text
  | cons c text => rfl

theorem separated_joined {α : Type} (separator : List Char) (item : Reader α) (tokens : α → List Token)
    (items : List α) (rest : List Token) (some_items : items ≠ []) (some_separator : separator ≠ [])
    (reads : ∀ one ∈ items, Reads item one (tokens one)) (ends : expect separator rest = none) :
    separated separator item (Sql.joined (Token.bares separator) (items.map tokens) ++ rest) = some (items, rest) := by
  induction items with
  | nil => exact absurd rfl some_items
  | cons one others ih =>
    have first := reads one (by simp)
    cases others with
    | nil => rw [List.map_cons, List.map_nil, Sql.joined, separated, first rest]; simp only [ends]
    | cons next others =>
      have later := ih (List.cons_ne_nil _ _) fun other member => reads other (List.mem_cons_of_mem one member)
      rw [List.map_cons] at later ⊢
      rw [List.map_cons, Sql.joined, List.append_assoc, List.append_assoc, separated, first]
      · have skipped : ∀ more, expect separator (Token.bares separator ++ more) = some ((), more) := expect_reads separator
        have shorter (more : List Token) : more.length < (tokens one ++ (Token.bares separator ++ more)).length := by
          cases separator with
          | nil => exact absurd rfl some_separator
          | cons c separator =>
            rw [Token.bares_cons]
            simp only [List.length_append, List.length_cons]
            omega
        simp only [skipped, shorter, if_true, later, Option.map_some]
      · exact List.cons_ne_nil _ _

theorem column_reads (name : String) : Reads column name (Sql.nameTokens name) := by
  intro rest
  rw [Sql.nameTokens, List.singleton_append, column, String.ofList_toList]

theorem table_reads (table : TableName) : Reads tableName table (Sql.tableTokens table) := by
  intro rest
  simp only [Sql.tableTokens, List.cons_append, List.nil_append, tableName, String.ofList_toList]

theorem assignment_reads (name : String) : Reads assignment name (Sql.assignedTokens name) := by
  intro rest
  have named := column_reads name (Token.bares ['=', '?'] ++ rest)
  have marked := expect_reads ['=', '?'] rest
  rw [Sql.assignedTokens, List.append_assoc, assignment, named]
  simp only [Option.bind_eq_bind, Option.bind_some, marked]
  rfl

theorem term_reads (one : Term) : Reads term one (Sql.termTokens one) := by
  intro rest
  cases one with
  | equals name =>
    have named := column_reads name (Token.bares ['=', '?'] ++ rest)
    have marked := expect_reads ['=', '?'] rest
    rw [Sql.termTokens, Sql.assignedTokens, List.append_assoc, term, named]
    simp only [Option.bind_eq_bind, Option.bind_some, marked]
    rfl
  | isNull name =>
    have named := column_reads name (Token.bares " IS NULL".toList ++ rest)
    have unmarked := expect_parted ['=', '?'] " IS NULL".toList rest (by decide)
    have null := expect_reads " IS NULL".toList rest
    rw [Sql.termTokens, List.append_assoc, term, named]
    simp only [Option.bind_eq_bind, Option.bind_some, unmarked, null]
    rfl

theorem tuple_reads (columns : List String) (some_columns : columns ≠ []) :
    Reads (tuple columns) columns (Sql.tupleTokens columns) := by
  intro rest
  have opened := expect_reads ['('] (Sql.joined (Token.bares [',']) ((List.replicate columns.length ()).map Sql.markTokens) ++
    (Token.bares [')'] ++ rest))
  have marks := separated_joined [','] (expect ['?']) Sql.markTokens (List.replicate columns.length ())
    (Token.bares [')'] ++ rest) (by simpa using some_columns) (by decide) (fun _ _ => expect_reads ['?'])
    (expect_parted [','] [')'] rest (by decide))
  have closed := expect_reads [')'] rest
  rw [Sql.tupleTokens, List.append_assoc, List.append_assoc, tuple, opened]
  simp only [Option.bind_eq_bind, Option.bind_some, marks, closed, List.length_replicate, if_true]
  rfl

theorem names_read (columns : List String) (rest : List Token) (some_columns : columns ≠ [])
    (ends : expect [','] rest = none) :
    separated [','] column (Sql.nameListTokens columns ++ rest) = some (columns, rest) :=
  separated_joined [','] column Sql.nameTokens columns rest some_columns (by decide) (fun name _ => column_reads name) ends

theorem assigned_list_read (columns : List String) (rest : List Token) (some_columns : columns ≠ [])
    (ends : expect [','] rest = none) :
    separated [','] assignment (Sql.assignedListTokens columns ++ rest) = some (columns, rest) :=
  separated_joined [','] assignment Sql.assignedTokens columns rest some_columns (by decide)
    (fun name _ => assignment_reads name) ends

theorem condition_read (terms : List Term) (some_terms : terms ≠ []) :
    separated " AND ".toList term (Sql.conditionTokens terms) = some (terms, []) := by
  have read := separated_joined " AND ".toList term Sql.termTokens terms [] some_terms (by decide)
    (fun one _ => term_reads one) (expect_end _ (by decide))
  rwa [List.append_nil] at read

theorem tuples_read (columns : List String) (rows : Nat) (rest : List Token) (some_columns : columns ≠ [])
    (some_rows : rows ≠ 0) (ends : expect [','] rest = none) :
    separated [','] (tuple columns) (Sql.tuplesTokens columns rows ++ rest) = some (List.replicate rows columns, rest) := by
  refine separated_joined [','] (tuple columns) Sql.tupleTokens (List.replicate rows columns) rest (by simpa using some_rows)
    (by decide) ?_ ends
  intro one member
  rw [List.eq_of_mem_replicate member]
  exact tuple_reads columns some_columns

end Reading

namespace Sql

def Filled : Sql → Prop
  | .insert _ _ columns rows => columns ≠ [] ∧ rows ≠ 0
  | .upsert _ columns => columns ≠ []
  | .delete _ terms => terms ≠ []
  | .deleteIn _ columns rows => columns ≠ [] ∧ rows ≠ 0
  | .update _ columns terms => columns ≠ [] ∧ terms ≠ []
  | .select _ terms => terms ≠ []

open Reading

def slots : Sql → List Slot
  | .insert _ _ columns rows => tupleSlots (List.replicate rows columns)
  | .upsert _ columns => tupleSlots [columns] ++ columnSlots false columns
  | .delete _ terms => termSlots terms
  | .deleteIn _ columns rows => tupleSlots (List.replicate rows columns)
  | .update _ columns terms => columnSlots true columns ++ termSlots terms
  | .select _ terms => termSlots terms

theorem insert_read (verb : InsertVerb) (table : TableName) (columns : List String) (rows : Nat)
    (some_columns : columns ≠ []) (some_rows : rows ≠ 0) :
    insertion verb (tokens (.insert verb table columns rows)) =
      some ⟨.insert verb table columns rows, tupleSlots (List.replicate rows columns)⟩ := by
  have tuples := tuples_read columns rows [] some_columns some_rows (expect_end _ (by decide))
  rw [List.append_nil] at tuples
  have names := names_read columns (Token.bares ") VALUES ".toList ++ tuplesTokens columns rows) some_columns
    (expect_parted _ _ _ (by decide))
  unfold tokens insertion
  simp only [Option.bind_eq_bind, Option.bind_some, expect_reads _ _, table_reads table _, names, tuples,
    List.isEmpty_nil, if_true, List.length_replicate]
  rfl

theorem upsert_read (table : TableName) (columns : List String) (some_columns : columns ≠ []) :
    insertion .plain (tokens (.upsert table columns)) =
      some ⟨.upsert table columns, tupleSlots [columns] ++ columnSlots false columns⟩ := by
  have assigned := assigned_list_read columns [] some_columns (expect_end _ (by decide))
  rw [List.append_nil] at assigned
  have follows : (Token.bares " ON DUPLICATE KEY UPDATE ".toList ++ assignedListTokens columns).isEmpty = false := by
    obtain ⟨c, rest, spelled⟩ := Token.follows_bares " ON DUPLICATE KEY UPDATE ".toList (assignedListTokens columns)
      (by decide)
    rw [spelled, List.isEmpty_cons]
  have tuple := tuples_read columns 1 (Token.bares " ON DUPLICATE KEY UPDATE ".toList ++ assignedListTokens columns)
    some_columns (by decide) (expect_parted _ _ _ (by decide))
  have names := names_read columns (Token.bares ") VALUES ".toList ++ (tuplesTokens columns 1 ++
    (Token.bares " ON DUPLICATE KEY UPDATE ".toList ++ assignedListTokens columns))) some_columns
    (expect_parted _ _ _ (by decide))
  have verb : "INSERT INTO ".toList = InsertVerb.plain.text.toList ++ [' '] := by decide
  unfold tokens insertion
  rw [verb]
  simp only [Option.bind_eq_bind, Option.bind_some, expect_reads _ _, table_reads table _, names, tuple, follows,
    assigned, finished, List.isEmpty_nil, if_true, List.length_replicate, Bool.false_eq_true, if_false, and_self]
  rfl

theorem delete_read (table : TableName) (terms : List Term) (some_terms : terms ≠ []) :
    deletion (tokens (.delete table terms)) = some ⟨.delete table terms, termSlots terms⟩ := by
  have named : expect ['('] (conditionTokens terms) = none := by
    cases terms with
    | nil => exact absurd rfl some_terms
    | cons one others => cases one <;> cases others <;> rfl
  unfold tokens deletion
  simp only [Option.bind_eq_bind, Option.bind_some, expect_reads _ _, table_reads table _, named,
    condition_read terms some_terms, finished, List.isEmpty_nil, if_true]

theorem delete_in_read (table : TableName) (columns : List String) (rows : Nat) (some_columns : columns ≠ [])
    (some_rows : rows ≠ 0) :
    deletion (tokens (.deleteIn table columns rows)) =
      some ⟨.deleteIn table columns rows, tupleSlots (List.replicate rows columns)⟩ := by
  have closed := expect_reads [')'] []
  rw [List.append_nil] at closed
  have ends : expect [','] (Token.bares [')']) = none := by
    simpa only [List.append_nil] using expect_parted [','] [')'] [] (by decide)
  have tuples := tuples_read columns rows (Token.bares [')']) some_columns some_rows ends
  have names := names_read columns (Token.bares ") in (".toList ++ (tuplesTokens columns rows ++ Token.bares [')']))
    some_columns (expect_parted _ _ _ (by decide))
  unfold tokens deletion
  simp only [Option.bind_eq_bind, Option.bind_some, expect_reads _ _, table_reads table _, names, tuples, closed,
    finished, List.isEmpty_nil, if_true, List.length_replicate]

theorem update_read (table : TableName) (columns : List String) (terms : List Term) (some_columns : columns ≠ [])
    (some_terms : terms ≠ []) :
    Reading.update (tokens (.update table columns terms)) =
      some ⟨.update table columns terms, columnSlots true columns ++ termSlots terms⟩ := by
  have assigned := assigned_list_read columns (Token.bares " WHERE ".toList ++ conditionTokens terms) some_columns
    (expect_parted _ _ _ (by decide))
  unfold tokens Reading.update
  simp only [Option.bind_eq_bind, Option.bind_some, expect_reads _ _, table_reads table _, assigned,
    condition_read terms some_terms, finished, List.isEmpty_nil, if_true]

theorem select_read (table : TableName) (terms : List Term) (some_terms : terms ≠ []) :
    selection (tokens (.select table terms)) = some ⟨.select table terms, termSlots terms⟩ := by
  unfold tokens selection
  simp only [Option.bind_eq_bind, Option.bind_some, expect_reads _ _, table_reads table _,
    condition_read terms some_terms, finished, List.isEmpty_nil, if_true]

theorem insertion_parted (verb : InsertVerb) (keyword : List Char) (rest : List Token)
    (parted : parts (verb.text.toList ++ [' ']) keyword = true) :
    insertion verb (Token.bares keyword ++ rest) = none := by
  rw [insertion, expect_parted _ _ _ parted]
  rfl

theorem deletion_parted (keyword : List Char) (rest : List Token) (parted : parts "DELETE FROM ".toList keyword = true) :
    deletion (Token.bares keyword ++ rest) = none := by
  rw [deletion, expect_parted _ _ _ parted]
  rfl

theorem update_parted (keyword : List Char) (rest : List Token) (parted : parts "UPDATE ".toList keyword = true) :
    Reading.update (Token.bares keyword ++ rest) = none := by
  rw [Reading.update, expect_parted _ _ _ parted]
  rfl

theorem statement_not_insertion (keyword : List Char) (rest : List Token)
    (parted : ∀ verb : InsertVerb, parts (verb.text.toList ++ [' ']) keyword = true) :
    statement (Token.bares keyword ++ rest) =
      (deletion (Token.bares keyword ++ rest) <|> Reading.update (Token.bares keyword ++ rest) <|>
        selection (Token.bares keyword ++ rest)) := by
  rw [statement, insertion_parted _ _ _ (parted .plain), insertion_parted _ _ _ (parted .ignore),
    insertion_parted _ _ _ (parted .replace)]
  rfl

theorem tokens_read (sql : Sql) (filled : sql.Filled) : statement sql.tokens = some ⟨sql, sql.slots⟩ := by
  cases sql with
  | insert verb table columns rows =>
    have read := insert_read verb table columns rows filled.1 filled.2
    have others (other : InsertVerb) (differs : other ≠ verb) :
        insertion other (tokens (.insert verb table columns rows)) = none := by
      refine insertion_parted other _ _ ?_
      cases other <;> cases verb <;> first | exact absurd rfl differs | decide
    cases verb with
    | plain => rw [statement, read]; rfl
    | ignore => rw [statement, others .plain (by decide), read]; rfl
    | replace => rw [statement, others .plain (by decide), others .ignore (by decide), read]; rfl
  | upsert table columns =>
    rw [statement, upsert_read table columns filled]
    rfl
  | delete table terms =>
    have read := delete_read table terms filled
    unfold tokens at read ⊢
    rw [statement_not_insertion _ _ (fun verb => by cases verb <;> decide), read]
    rfl
  | deleteIn table columns rows =>
    have read := delete_in_read table columns rows filled.1 filled.2
    unfold tokens at read ⊢
    rw [statement_not_insertion _ _ (fun verb => by cases verb <;> decide), read]
    rfl
  | update table columns terms =>
    have read := update_read table columns terms filled.1 filled.2
    unfold tokens at read ⊢
    rw [statement_not_insertion _ _ (fun verb => by cases verb <;> decide), deletion_parted _ _ (by decide), read]
    rfl
  | select table terms =>
    have read := select_read table terms filled
    unfold tokens at read ⊢
    rw [statement_not_insertion _ _ (fun verb => by cases verb <;> decide), deletion_parted _ _ (by decide),
      update_parted _ _ (by decide), read]
    rfl

end Sql

end ChangeApply
