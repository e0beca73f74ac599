import LineEditor.Text.Basic

/-! White space is the property White_Space of the Unicode standard. It separates a command word
from a file name and cannot delimit the fields of a substitution. -/
namespace LineEditor.Text

def isWhitespace (c : Char) : Bool :=
  let n := c.toNat
  (9 ≤ n && n ≤ 13) || n = 0x20 || n = 0x85 || n = 0xa0 || n = 0x1680 ||
    (0x2000 ≤ n && n ≤ 0x200a) || n = 0x2028 || n = 0x2029 || n = 0x202f || n = 0x205f || n = 0x3000

def trimStart (t : Text) : Text := t.dropWhile isWhitespace

def trimEnd (t : Text) : Text := (t.reverse.dropWhile isWhitespace).reverse

def trim (t : Text) : Text := trimEnd (trimStart t)

def firstWord (t : Text) : Text := t.takeWhile (!isWhitespace ·)

def afterFirstWord (t : Text) : Text := (t.dropWhile (!isWhitespace ·)).drop 1

end LineEditor.Text
