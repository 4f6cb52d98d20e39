set_option autoImplicit false

namespace ChangeApply

namespace Ascii

def fold (text : String) : List Char := text.toList.map Char.toLower

def lower (text : String) : String := String.ofList (fold text)

def same (left right : String) : Bool := fold left == fold right

theorem same_iff (left right : String) : same left right = true ↔ fold left = fold right := by
  simp [same]

end Ascii

namespace Text

def occursIn (pattern : List Char) : List Char → Bool
  | [] => pattern.isEmpty
  | c :: rest => pattern.isPrefixOf (c :: rest) || occursIn pattern rest

def contains (text pattern : String) : Bool := occursIn pattern.toList text.toList

theorem occurs_in_iff (pattern text : List Char) :
    occursIn pattern text = true ↔ pattern <:+: text := by
  induction text with
  | nil => simp [occursIn]
  | cons c rest ih => simp [occursIn, ih, List.infix_cons_iff]

theorem contains_iff (text pattern : String) :
    contains text pattern = true ↔ pattern.toList <:+: text.toList :=
  occurs_in_iff pattern.toList text.toList

end Text

end ChangeApply
