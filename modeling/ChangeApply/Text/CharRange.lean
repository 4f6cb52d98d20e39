set_option autoImplicit false

namespace ChangeApply

namespace CharRange

def covers (ranges : List (Nat × Nat)) (c : Char) : Bool :=
  ranges.any fun range => range.1 ≤ c.toNat && c.toNat ≤ range.2

end CharRange

namespace Blank

def ranges : List (Nat × Nat) :=
  [(0x09, 0x0D), (0x20, 0x20), (0x85, 0x85), (0xA0, 0xA0), (0x1680, 0x1680), (0x2000, 0x200A),
   (0x2028, 0x2029), (0x202F, 0x202F), (0x205F, 0x205F), (0x3000, 0x3000)]

def isBlank (c : Char) : Bool := CharRange.covers ranges c

def skip (text : List Char) : List Char := text.dropWhile isBlank

def trim (text : List Char) : List Char := (skip (skip text).reverse).reverse

def onlyBlanks (text : String) : Bool := text.toList.all isBlank

theorem skip_of_not_blank (c : Char) (rest : List Char) (visible : isBlank c = false) :
    skip (c :: rest) = c :: rest := by
  simp [skip, visible]

end Blank

end ChangeApply
