/-! Text is a list of characters, so that a rule about text is a walk from its left end. -/
namespace LineEditor

abbrev Text := List Char

namespace Text

def isBlank (c : Char) : Bool := c = ' ' || c = '\t'

def dropBlanks (t : Text) : Text := t.dropWhile isBlank

/-- The text left when its first `n` bytes of UTF-8 are dropped; nothing is left when the cut falls
past the end or inside a character. -/
def dropBytes : Nat → Text → Text
  | 0, t => t
  | _ + 1, [] => []
  | n + 1, c :: t => if c.utf8Size ≤ n + 1 then dropBytes (n + 1 - c.utf8Size) t else []

def byteLength : Text → Nat
  | [] => 0
  | c :: t => c.utf8Size + byteLength t

end Text

end LineEditor
