import ChangeApply.Proofs.Quoting

set_option autoImplicit false

/- Statement text as it is read: names in backticks, and bare characters between them.
   A name ends at its first single backtick, so nothing inside one is bare. -/
namespace ChangeApply

inductive Token where
  | name (text : List Char)
  | bare (c : Char)
deriving DecidableEq

namespace Token

def lex : List Char → Option (List Token)
  | [] => some []
  | c :: rest =>
    if c = Identifier.backtick then
      match _found : Identifier.inside rest with
      | some (letters, after) => (lex after).map (.name letters :: ·)
      | none => none
    else (lex rest).map (.bare c :: ·)
termination_by text => text.length
decreasing_by
  · have shorter := Identifier.inside_shorter rest letters after _found
    simp only [List.length_cons]
    omega
  · simp

def text : Token → List Char
  | .name letters => Identifier.encode letters
  | .bare c => [c]

def spell (tokens : List Token) : List Char := tokens.flatMap text

-- Irreducible: the keywords of a statement stay as they are written.
@[irreducible] def bares (text : List Char) : List Token := text.map .bare

-- No bare backtick, and a bare character after each name: what is spelled this way can
-- be put together without a name running into what follows.
def Sealed : List Token → Prop
  | [] => True
  | .bare c :: rest => c ≠ Identifier.backtick ∧ Sealed rest
  | .name _ :: .bare c :: rest => c ≠ Identifier.backtick ∧ Sealed rest
  | .name _ :: _ => False

theorem bares_nil : bares [] = [] := by
  rw [bares, List.map_nil]

theorem bares_cons (c : Char) (text : List Char) : bares (c :: text) = .bare c :: bares text := by
  rw [bares, bares, List.map_cons]

theorem lex_bare (c : Char) (rest : List Char) (bare : c ≠ Identifier.backtick) :
    lex (c :: rest) = (lex rest).map (.bare c :: ·) := by
  rw [lex, if_neg bare]

theorem lex_encode (letters rest : List Char) (ended : rest.head? ≠ some Identifier.backtick) :
    lex (Identifier.encode letters ++ rest) = (lex rest).map (.name letters :: ·) := by
  have found : Identifier.inside (Identifier.escape letters ++ Identifier.backtick :: rest) = some (letters, rest) :=
    Identifier.inside_escape letters rest ended
  rw [Identifier.encode, List.cons_append, List.cons_append, List.append_assoc, List.singleton_append, lex, if_pos rfl]
  split
  next other after same =>
    rw [found] at same
    cases same
    rfl
  next missing =>
    rw [found] at missing
    cases missing

theorem lex_spell (tokens : List Token) (closed : Sealed tokens) : lex (spell tokens) = some tokens := by
  fun_induction Sealed tokens with
  | case1 => rw [spell, List.flatMap_nil, lex]
  | case2 c rest ih =>
    have later := ih closed.2
    rw [spell] at later ⊢
    rw [List.flatMap_cons, text, List.singleton_append, lex_bare c _ closed.1, later]
    rfl
  | case3 letters c rest ih =>
    have later := ih closed.2
    rw [spell] at later ⊢
    rw [List.flatMap_cons, List.flatMap_cons, text, text, List.singleton_append, lex_encode, lex_bare c _ closed.1,
      later]
    · rfl
    · simpa using closed.1
  | case4 => exact closed.elim

theorem spell_append (first second : List Token) : spell (first ++ second) = spell first ++ spell second :=
  List.flatMap_append

theorem spell_bares (text : List Char) : spell (bares text) = text := by
  induction text with
  | nil => rw [bares_nil, spell, List.flatMap_nil]
  | cons c rest ih =>
    rw [spell] at ih
    rw [bares_cons, spell, List.flatMap_cons, ih, Token.text, List.singleton_append]

def Follows (tokens : List Token) : Prop := ∃ c rest, tokens = .bare c :: rest

theorem follows_bares (text : List Char) (rest : List Token) (some_text : text ≠ []) : Follows (bares text ++ rest) := by
  cases text with
  | nil => exact absurd rfl some_text
  | cons c text =>
    rw [bares_cons]
    exact ⟨c, bares text ++ rest, rfl⟩

theorem sealed_name (letters : List Char) (rest : List Token) (follows : Follows rest) (closed : Sealed rest) :
    Sealed (.name letters :: rest) := by
  obtain ⟨c, more, rfl⟩ := follows
  exact closed

theorem sealed_bares (text : List Char) (rest : List Token) (plain : Identifier.backtick ∉ text) (closed : Sealed rest) :
    Sealed (bares text ++ rest) := by
  induction text with
  | nil =>
    rw [bares_nil]
    exact closed
  | cons c text ih =>
    rw [List.mem_cons, not_or] at plain
    rw [bares_cons]
    exact ⟨fun same => plain.1 same.symm, ih plain.2⟩

end Token

end ChangeApply
