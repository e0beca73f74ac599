import LineEditor.Text.Basic

/-! What a substitution puts in the place of a match. An ampersand is the match and a backslash with
a digit from 1 to 9 a group; a backslash takes any other character its meaning. A dollar is no more
than itself, although it begins a reference in a template. -/
namespace LineEditor.Substitution

def groupReference (digit : Char) : Text := ['$', '\x7b', digit, '\x7d']

def literal (c : Char) : Text := if c = '$' then ['$', '$'] else [c]

def isGroupDigit (c : Char) : Bool := c.isDigit && c ≠ '0'

def toTemplate : Text → Text
  | [] => []
  | ['\\'] => ['\\']
  | '\\' :: c :: t => (if isGroupDigit c then groupReference c else literal c) ++ toTemplate t
  | c :: t => (if c = '&' then groupReference '0' else literal c) ++ toTemplate t

end LineEditor.Substitution
