set_option autoImplicit false

namespace ChangeApply.Utf8

def size : List Char → Nat
  | [] => 0
  | c :: rest => c.utf8Size + size rest

def drop : Nat → List Char → List Char
  | 0, text => text
  | _ + 1, [] => []
  | place + 1, c :: rest => drop (place + 1 - c.utf8Size) rest

def take : Nat → List Char → List Char
  | 0, _ => []
  | _ + 1, [] => []
  | place + 1, c :: rest => c :: take (place + 1 - c.utf8Size) rest

def between (start stop : Nat) (text : List Char) : List Char := take (stop - start) (drop start text)

end ChangeApply.Utf8
