import ChangeApply.Json.Printer
import ChangeApply.Proofs.Documents
import ChangeApply.Wire.Change
import ChangeApply.Wire.Statement

set_option autoImplicit false

namespace ChangeApply

namespace Json

theorem digits_written (size : Nat) : Digits (Numeral.digits size) :=
  ⟨Numeral.digits_ne_nil size, Numeral.digits_digits size⟩

theorem whole_digits_written (size : Nat) : WholeDigits (Numeral.digits size) := by
  by_cases zero : size = 0
  · subst zero
    exact .inl rfl
  · exact .inr ⟨digits_written size, Numeral.head_digits size (Nat.pos_of_ne_zero zero)⟩

theorem exponent_written (exponent : Int) : Exponent (some exponent) ('e' :: Numeral.signed exponent) := by
  by_cases negative : exponent < 0
  · have back : -(exponent.natAbs : Int) = exponent := by omega
    have written := Exponent.negative 'e' _ (.inl rfl) (digits_written exponent.natAbs)
    rw [Numeral.signed, if_pos negative]
    rwa [Numeral.value_digits, back] at written
  · have back : (exponent.natAbs : Int) = exponent := by omega
    have written := Exponent.plain 'e' _ (.inl rfl) (digits_written exponent.natAbs)
    rw [Numeral.signed, if_neg negative]
    rwa [Numeral.value_digits, back] at written

theorem whole_written (negative : Bool) (size : Nat) (signed : negative = true → size ≠ 0) :
    (Number.whole (if negative then -(size : Int) else size)).Written (sign negative ++ Numeral.digits size) := by
  have written := Number.Written.parts negative _ [] [] [] none (whole_digits_written size) .none .none
  rw [Number.ofParts, List.append_nil, Numeral.value_digits,
    if_pos ⟨rfl, rfl, fun zero => signed zero.1 zero.2⟩] at written
  simpa only [List.append_nil] using written

theorem number_written (number : Number) : number.Written number.text.toList := by
  cases number with
  | whole value =>
    rw [Number.text, String.toList_ofList, Numeral.signed]
    by_cases negative : value < 0
    · have back : -(value.natAbs : Int) = value := by omega
      have written := whole_written true value.natAbs (by omega)
      rw [if_pos rfl, back] at written
      rw [if_pos negative]
      exact written
    · have back : (value.natAbs : Int) = value := by omega
      have written := whole_written false value.natAbs nofun
      rw [if_neg Bool.false_ne_true, back] at written
      rw [if_neg negative]
      exact written
  | decimal negative coefficient exponent =>
    have written := Number.Written.parts negative _ [] [] _ (some exponent)
      (whole_digits_written coefficient) .none (exponent_written exponent)
    rw [Number.ofParts, List.append_nil, Numeral.value_digits, if_neg (by simp)] at written
    simpa [Number.text, sign] using written

theorem control_code (code : Nat) (control : code < 0x20) :
    hexText code = ['0', '0', (code / 16).digitChar, (code % 16).digitChar] ∧
      ['0', '0', (code / 16).digitChar, (code % 16).digitChar].mapM Numeral.hexDigit? =
        some [0, 0, code / 16, code % 16] := by
  revert code
  decide

theorem unit_escaped (c : Char) : (Unit16.char c).Written (escaped c) := by
  unfold escaped
  split
  case h_8 quote backslash _ _ _ _ _ =>
    by_cases control : c.toNat < 0x20
    · obtain ⟨spelled, digits⟩ := control_code c.toNat control
      have code : ((0 * 16 + 0) * 16 + c.toNat / 16) * 16 + c.toNat % 16 = c.toNat := by omega
      have plain : Unit16.ofCode c.toNat = .char c := by
        rw [Unit16.ofCode, if_neg (by omega), if_neg (by omega), Char.ofNat_toNat]
      rw [if_pos control, spelled]
      have written := Unit16.Written.code _ _ _ _ _ _ _ _ digits
      rwa [code, plain] at written
    · rw [if_neg control]
      exact .plain c quote backslash control
  all_goals exact .short _ _ rfl

theorem body_escaped (text : List Char) : Body (text.map .char) (text.flatMap escaped) := by
  induction text with
  | nil => exact .nil
  | cons c text ih => exact .cons _ _ _ _ (unit_escaped c) ih

theorem stands_for_chars (text letters : List Char) : StandsFor (text.map .char) letters ↔ letters = text := by
  induction text generalizing letters with
  | nil =>
    constructor
    · intro stands
      cases stands
      rfl
    · rintro rfl
      exact .nil
  | cons c text ih =>
    constructor
    · intro stands
      cases stands with
      | char _ _ letters later => rw [(ih letters).mp later]
    · rintro rfl
      exact .char c _ text ((ih text).mpr rfl)

theorem text_written (text : String) : Text.Written (some text) (quoted (some text)).toList := by
  refine ⟨_, _, body_escaped text.toList, by simp [quoted], fun letters => ?_⟩
  rw [stands_for_chars, Option.some.injEq, ← String.toList_inj, String.toList_ofList, eq_comm]

namespace Token

def spell : Token → List Char
  | .openArray => ['[']
  | .closeArray => [']']
  | .openObject => ['{']
  | .closeObject => ['}']
  | .comma => [',']
  | .colon => [':']
  | .null => ['n', 'u', 'l', 'l']
  | .bool true => ['t', 'r', 'u', 'e']
  | .bool false => ['f', 'a', 'l', 's', 'e']
  | .number value => value.text.toList
  | .string text => (quoted text).toList
  | .ragged units => (Json.text (.ragged units)).toList

theorem spell_written (token : Token) (proper : token.isProper = true) : token.Written token.spell := by
  cases token with
  | number value => exact number_written value
  | string text =>
    cases text with
    | some text => exact text_written text
    | none => cases proper
  | ragged units => cases proper
  | bool value => cases value <;> rfl
  | _ => rfl

theorem spaced_spell (tokens : List Token) (proper : ∀ token ∈ tokens, token.isProper = true) :
    Spaced tokens (tokens.flatMap spell) := by
  induction tokens with
  | nil => exact .nil [] nofun
  | cons token rest ih =>
    obtain ⟨first, later⟩ := List.forall_mem_cons.mp proper
    exact .cons token rest [] token.spell _ nofun (token.spell_written first) (ih later)

end Token

theorem joined_texts (first : String) (rest : List String) :
    (String.intercalate "," (first :: rest)).toList =
      first.toList ++ rest.flatMap fun text => ',' :: text.toList := by
  induction rest generalizing first with
  | nil => simp
  | cons next rest ih =>
    have more := ih next
    rw [String.toList_intercalate] at more ⊢
    rw [List.map_cons, List.map_cons, List.intercalate_cons_cons, ← List.map_cons, more]
    simp

mutual
theorem spell_tokens (json : Json) : (tokens json).flatMap Token.spell = json.text.toList := by
  cases json with
  | null => rfl
  | bool value => cases value <;> rfl
  | number value => simp [tokens, Token.spell, text]
  | string value => simp [tokens, Token.spell, text]
  | ragged units => simp [tokens, Token.spell]
  | array items =>
    cases items with
    | nil => rfl
    | cons item rest =>
      rw [tokens, text, itemTexts, String.toList_append, String.toList_append, joined_texts,
        List.flatMap_cons, List.flatMap_append, spell_tokens item, spell_later_items rest]
      simp [Token.spell]
  | object members =>
    cases members with
    | nil => rfl
    | cons member rest =>
      obtain ⟨name, value⟩ := member
      rw [tokens, text, memberTexts, String.toList_append, String.toList_append, joined_texts,
        List.flatMap_cons, List.flatMap_cons, List.flatMap_cons, List.flatMap_append,
        spell_tokens value, spell_later_members rest]
      simp [Token.spell]
theorem spell_later_items (items : List Json) :
    (laterItems items).flatMap Token.spell =
      ((itemTexts items).flatMap fun text => ',' :: text.toList) ++ [']'] := by
  cases items with
  | nil => rfl
  | cons item rest =>
    rw [laterItems, itemTexts, List.flatMap_cons, List.flatMap_append, spell_tokens item,
      spell_later_items rest]
    simp [Token.spell]
theorem spell_later_members (members : List (Text × Json)) :
    (laterMembers members).flatMap Token.spell =
      ((memberTexts members).flatMap fun text => ',' :: text.toList) ++ ['}'] := by
  match members with
  | [] => rfl
  | (name, value) :: rest =>
    rw [laterMembers, memberTexts, List.flatMap_cons, List.flatMap_cons, List.flatMap_cons,
      List.flatMap_append, spell_tokens value, spell_later_members rest]
    simp [Token.spell]
end

theorem written_text (json : Json) (proper : json.Proper) : json.Written json.text.toList := by
  rw [Written, ← spell_tokens]
  exact Token.spaced_spell (tokens json) proper

theorem read_loosely_text (json : Json) (proper : json.Proper) : readLoosely json.text = some json :=
  read_loosely_of_read _ _ ((read_iff _ _).mpr (json.written_text proper)) proper

end Json

theorem Value.proper_json (value : Value) : value.toJson.Proper := by
  cases value <;> simp [toJson, Wire.tagged]

theorem Column.proper_json (column : Column) : column.toJson.Proper := by
  simp [toJson]

theorem Table.proper_json (table : Table) : table.toJson.Proper := by
  have shardKey (key : Option String) : (textOrNull key).Proper := by
    cases key <;> simp [textOrNull]
  simp [toJson, Column.proper_json, shardKey]

theorem Cells.proper_json (cells : Cells) : cells.toJson.Proper :=
  (Json.proper_record _).mpr (List.forall_mem_map.mpr fun entry _ => entry.2.proper_json)

theorem Row.proper_json (row : Row) : row.toJson.Proper := by
  simp [toJson, Cells.proper_json]

theorem RowChange.proper_json (change : RowChange) : change.toJson.Proper := by
  simp [toJson, RowAction.toJson, Column.proper_json, Row.proper_json]

theorem Statement.proper_json (statement : Statement) : statement.toJson.Proper := by
  simp [toJson, Value.proper_json]

theorem MergedStatement.proper_json (merged : MergedStatement) : merged.toJson.Proper := by
  simp [toJson, Value.proper_json]

theorem DdlStatement.proper_json (ddl : DdlStatement) : ddl.toJson.Proper := by
  simp [toJson]

theorem EventKind.proper_json (event : EventKind) : event.toJson.Proper := by
  cases event <;> simp [toJson, RowAction.toJson, DdlKind.toJson, Wire.tagged]

theorem Policy.proper_json (policy : Policy) : policy.toJson.Proper := by
  cases policy <;> simp [toJson, InsertVerb.toJson, Wire.tagged]

end ChangeApply
