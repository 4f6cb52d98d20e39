import ChangeApply.Proofs.Token
import ChangeApply.Statement.Sql

set_option autoImplicit false

namespace ChangeApply.Sql

open Token

def tableTokens (table : TableName) : List Token := [.name table.schema.toList, .bare '.', .name table.name.toList]

def nameTokens (column : String) : List Token := [.name column.toList]

def assignedTokens (column : String) : List Token := nameTokens column ++ bares ['=', '?']

def termTokens : Term → List Token
  | .equals column => assignedTokens column
  | .isNull column => nameTokens column ++ bares " IS NULL".toList

def markTokens (_ : Unit) : List Token := bares ['?']

def tupleTokens (columns : List String) : List Token :=
  bares ['('] ++ (joined (bares [',']) ((List.replicate columns.length ()).map markTokens) ++ bares [')'])

def nameListTokens (columns : List String) : List Token := joined (bares [',']) (columns.map nameTokens)

def assignedListTokens (columns : List String) : List Token := joined (bares [',']) (columns.map assignedTokens)

def conditionTokens (terms : List Term) : List Token := joined (bares " AND ".toList) (terms.map termTokens)

def tuplesTokens (columns : List String) (rows : Nat) : List Token :=
  joined (bares [',']) ((List.replicate rows columns).map tupleTokens)

def tokens : Sql → List Token
  | .insert verb table columns rows =>
    bares (verb.text.toList ++ [' ']) ++ (tableTokens table ++ (bares ['('] ++ (nameListTokens columns ++
      (bares ") VALUES ".toList ++ tuplesTokens columns rows))))
  | .upsert table columns =>
    bares "INSERT INTO ".toList ++ (tableTokens table ++ (bares ['('] ++ (nameListTokens columns ++
      (bares ") VALUES ".toList ++ (tuplesTokens columns 1 ++
        (bares " ON DUPLICATE KEY UPDATE ".toList ++ assignedListTokens columns))))))
  | .delete table terms =>
    bares "DELETE FROM ".toList ++ (tableTokens table ++ (bares " WHERE ".toList ++ conditionTokens terms))
  | .deleteIn table columns rows =>
    bares "DELETE FROM ".toList ++ (tableTokens table ++ (bares " WHERE ".toList ++ (bares ['('] ++
      (nameListTokens columns ++ (bares ") in (".toList ++ (tuplesTokens columns rows ++ bares [')']))))))
  | .update table columns terms =>
    bares "UPDATE ".toList ++ (tableTokens table ++ (bares " SET ".toList ++ (assignedListTokens columns ++
      (bares " WHERE ".toList ++ conditionTokens terms))))
  | .select table terms =>
    bares "SELECT * FROM ".toList ++ (tableTokens table ++ (bares " WHERE ".toList ++ conditionTokens terms))

theorem spell_joined (separator : List Token) (items : List (List Token)) :
    spell (joined separator items) = joined (spell separator) (items.map spell) := by
  induction items with
  | nil => rfl
  | cons item rest ih =>
    cases rest with
    | nil => rfl
    | cons next rest =>
      rw [joined, spell_append, spell_append, ih]
      · rfl
      · exact List.cons_ne_nil next rest

theorem spell_list {α : Type} (separator : List Char) (tokens : α → List Token) (chars : α → List Char)
    (items : List α) (same : ∀ item, spell (tokens item) = chars item) :
    spell (joined (bares separator) (items.map tokens)) = joined separator (items.map chars) := by
  rw [spell_joined, spell_bares, List.map_map]
  congr 2
  funext item
  exact same item

theorem spell_table (table : TableName) : spell (tableTokens table) = tableText table := by
  simp [spell, tableTokens, Token.text, tableText, Identifier.encodeQualified]

theorem spell_name (column : String) : spell (nameTokens column) = quoted column := by
  simp [spell, nameTokens, Token.text, quoted]

theorem spell_assigned (column : String) : spell (assignedTokens column) = assigned column := by
  rw [assignedTokens, spell_append, spell_bares, spell_name, assigned]

theorem spell_term (one : Term) : spell (termTokens one) = term one := by
  cases one with
  | equals column => exact spell_assigned column
  | isNull column =>
    rw [termTokens, spell_append, spell_bares, spell_name]
    rfl

theorem spell_tuple (columns : List String) : spell (tupleTokens columns) = enclosed (marks columns.length) := by
  have marked : spell (joined (bares [',']) ((List.replicate columns.length ()).map markTokens)) = marks columns.length := by
    rw [spell_list [','] markTokens (fun _ => ['?']) _ fun _ => spell_bares ['?'], List.map_replicate]
    rfl
  rw [tupleTokens, spell_append, spell_append, marked, spell_bares, spell_bares]
  rfl

theorem spell_names (columns : List String) : spell (nameListTokens columns) = nameList columns :=
  spell_list [','] nameTokens quoted columns spell_name

theorem spell_assigned_list (columns : List String) : spell (assignedListTokens columns) = assignedList columns :=
  spell_list [','] assignedTokens assigned columns spell_assigned

theorem spell_condition (terms : List Term) : spell (conditionTokens terms) = condition terms :=
  spell_list " AND ".toList termTokens term terms spell_term

theorem spell_tuples (columns : List String) (rows : Nat) :
    spell (tuplesTokens columns rows) = tuples columns.length rows := by
  have rowed := spell_list [','] tupleTokens (fun columns => enclosed (marks columns.length))
    (List.replicate rows columns) spell_tuple
  rw [List.map_replicate (f := fun columns : List String => enclosed (marks columns.length))] at rowed
  exact rowed

-- The equations of `render` are never asked for: they would spell its keywords out.
theorem spell_tokens (sql : Sql) : spell sql.tokens = sql.render := by
  have values : ") VALUES ".toList = [')'] ++ " VALUES ".toList := by decide
  have within : ") in (".toList = [')'] ++ (" in ".toList ++ ['(']) := by decide
  cases sql with
  | insert verb table columns rows =>
    unfold tokens render
    simp only [spell_append, spell_bares, spell_table, spell_names, spell_tuples, enclosed, values, List.append_assoc,
      List.cons_append, List.nil_append]
  | upsert table columns =>
    have one : tuples columns.length 1 = enclosed (marks columns.length) := rfl
    unfold tokens render
    simp only [spell_append, spell_bares, spell_table, spell_names, spell_tuples, spell_assigned_list, enclosed, values,
      one, List.append_assoc, List.cons_append, List.nil_append]
  | delete table terms =>
    unfold tokens render
    simp only [spell_append, spell_bares, spell_table, spell_condition, List.append_assoc]
  | deleteIn table columns rows =>
    unfold tokens render
    simp only [spell_append, spell_bares, spell_table, spell_names, spell_tuples, enclosed, within, List.append_assoc,
      List.cons_append, List.nil_append]
  | update table columns terms =>
    unfold tokens render
    simp only [spell_append, spell_bares, spell_table, spell_assigned_list, spell_condition, List.append_assoc]
  | select table terms =>
    unfold tokens render
    simp only [spell_append, spell_bares, spell_table, spell_condition, List.append_assoc]

-- `Fits` is what an item of the list can stand in front of.
theorem sealed_list {α : Type} (Fits : List Token → Prop) (separator : List Char) (tokens : α → List Token)
    (items : List α) (rest : List Token) (plain : Identifier.backtick ∉ separator)
    (each : ∀ item after, Fits after → Sealed after → Sealed (tokens item ++ after))
    (separates : ∀ after, Fits (bares separator ++ after)) (fits : Fits rest) (closed : Sealed rest) :
    Sealed (joined (bares separator) (items.map tokens) ++ rest) := by
  induction items with
  | nil => exact closed
  | cons item others ih =>
    cases others with
    | nil => exact each item rest fits closed
    | cons next others =>
      rw [List.map_cons, List.map_cons, joined, List.append_assoc, List.append_assoc]
      · exact each item _ (separates _) (sealed_bares _ _ plain ih)
      · exact List.cons_ne_nil _ _

theorem sealed_table (table : TableName) (rest : List Token) (follows : Follows rest) (closed : Sealed rest) :
    Sealed (tableTokens table ++ rest) :=
  sealed_name _ _ ⟨'.', _, rfl⟩ ⟨by decide, sealed_name _ _ follows closed⟩

theorem sealed_assigned (column : String) (rest : List Token) (closed : Sealed rest) :
    Sealed (assignedTokens column ++ rest) := by
  rw [assignedTokens, List.append_assoc]
  exact sealed_name _ _ (follows_bares _ _ (by decide)) (sealed_bares _ _ (by decide) closed)

theorem sealed_term (one : Term) (rest : List Token) (closed : Sealed rest) : Sealed (termTokens one ++ rest) := by
  cases one with
  | equals column => exact sealed_assigned column rest closed
  | isNull column =>
    rw [termTokens, List.append_assoc]
    exact sealed_name _ _ (follows_bares _ _ (by decide)) (sealed_bares _ _ (by decide) closed)

theorem sealed_tuple (columns : List String) (rest : List Token) (closed : Sealed rest) :
    Sealed (tupleTokens columns ++ rest) := by
  rw [tupleTokens, List.append_assoc, List.append_assoc]
  refine sealed_bares _ _ (by decide) (sealed_list (fun _ => True) _ _ _ _ (by decide) ?_ (fun _ => trivial) trivial
    (sealed_bares _ _ (by decide) closed))
  exact fun _ after _ => sealed_bares ['?'] after (by decide)

theorem sealed_names (columns : List String) (rest : List Token) (follows : Follows rest) (closed : Sealed rest) :
    Sealed (nameListTokens columns ++ rest) :=
  sealed_list Follows _ nameTokens columns rest (by decide) (fun column after => sealed_name column.toList after)
    (fun after => follows_bares _ after (by decide)) follows closed

theorem sealed_assigned_list (columns : List String) (rest : List Token) (closed : Sealed rest) :
    Sealed (assignedListTokens columns ++ rest) :=
  sealed_list (fun _ => True) _ assignedTokens columns rest (by decide)
    (fun column after _ => sealed_assigned column after) (fun _ => trivial) trivial closed

theorem sealed_condition (terms : List Term) (rest : List Token) (closed : Sealed rest) :
    Sealed (conditionTokens terms ++ rest) :=
  sealed_list (fun _ => True) _ termTokens terms rest (by decide)
    (fun one after _ => sealed_term one after) (fun _ => trivial) trivial closed

theorem sealed_tuples (columns : List String) (rows : Nat) (rest : List Token) (closed : Sealed rest) :
    Sealed (tuplesTokens columns rows ++ rest) :=
  sealed_list (fun _ => True) _ tupleTokens (List.replicate rows columns) rest (by decide)
    (fun columns after _ => sealed_tuple columns after) (fun _ => trivial) trivial closed

theorem sealed_opening (keyword next : List Char) (table : TableName) (rest : List Token)
    (plain : Identifier.backtick ∉ keyword ++ next) (some_next : next ≠ []) (closed : Sealed rest) :
    Sealed (bares keyword ++ (tableTokens table ++ (bares next ++ rest))) := by
  rw [List.mem_append, not_or] at plain
  refine sealed_bares _ _ plain.1 (sealed_table table _ (follows_bares _ _ some_next) ?_)
  exact sealed_bares _ _ plain.2 closed

theorem sealed_name_list (columns : List String) (next : List Char) (rest : List Token)
    (plain : Identifier.backtick ∉ next) (some_next : next ≠ []) (closed : Sealed rest) :
    Sealed (nameListTokens columns ++ (bares next ++ rest)) :=
  sealed_names columns _ (follows_bares _ _ some_next) (sealed_bares _ _ plain closed)

theorem sealed_tokens (sql : Sql) : Sealed sql.tokens := by
  have condition (terms : List Term) : Sealed (conditionTokens terms) := by
    simpa only [List.append_nil] using sealed_condition terms [] trivial
  cases sql with
  | insert verb table columns rows =>
    have plain : Identifier.backtick ∉ (verb.text.toList ++ [' ']) ++ ['('] := by cases verb <;> decide
    refine sealed_opening _ _ table _ plain (by decide) (sealed_name_list columns _ _ (by decide) (by decide) ?_)
    simpa only [List.append_nil] using sealed_tuples columns rows [] trivial
  | upsert table columns =>
    refine sealed_opening _ _ table _ (by decide) (by decide) (sealed_name_list columns _ _ (by decide) (by decide) ?_)
    refine sealed_tuples columns 1 _ (sealed_bares _ _ (by decide) ?_)
    simpa only [List.append_nil] using sealed_assigned_list columns [] trivial
  | delete table terms => exact sealed_opening _ _ table _ (by decide) (by decide) (condition terms)
  | deleteIn table columns rows =>
    refine sealed_opening _ _ table _ (by decide) (by decide) (sealed_bares _ _ (by decide) ?_)
    refine sealed_name_list columns _ _ (by decide) (by decide) (sealed_tuples columns rows _ ?_)
    simpa only [List.append_nil] using sealed_bares [')'] [] (by decide) trivial
  | update table columns terms =>
    refine sealed_opening _ _ table _ (by decide) (by decide) (sealed_assigned_list columns _ ?_)
    exact sealed_bares _ _ (by decide) (condition terms)
  | select table terms => exact sealed_opening _ _ table _ (by decide) (by decide) (condition terms)

theorem lex_render (sql : Sql) : lex sql.render = some sql.tokens := by
  rw [← spell_tokens, lex_spell sql.tokens sql.sealed_tokens]

end ChangeApply.Sql
