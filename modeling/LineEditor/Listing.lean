import LineEditor.Text.Decimal

/-! How printed lines look: as they are, with their address in front, or so that nothing in them can
be mistaken. -/
namespace LineEditor

inductive PrintMode where
  | plain
  | numbered
  | unambiguous
  deriving DecidableEq, Repr

def escapeChar (c : Char) : Text :=
  match c with
  | '\\' => ['\\', '\\']
  | '\t' => ['\\', 't']
  | '\x07' => ['\\', 'a']
  | '\x08' => ['\\', 'b']
  | '\r' => ['\\', 'r']
  | '\n' => ['\\', 'n']
  | c => [c]

def escapeLine (line : Text) : Text := line.flatMap escapeChar ++ ['$']

namespace PrintMode

def ofVerb? : Char → Option PrintMode
  | 'p' => some plain
  | 'n' => some numbered
  | 'l' => some unambiguous
  | _ => none

def render : PrintMode → Nat → Text → Text
  | plain, _, line => line
  | numbered, addr, line => Text.decimal addr ++ '\t' :: line
  | unambiguous, _, line => escapeLine line

end PrintMode

end LineEditor
