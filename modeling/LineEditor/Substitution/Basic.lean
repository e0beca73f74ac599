import LineEditor.Error
import LineEditor.Text.Whitespace
import LineEditor.Regex.Template
import LineEditor.Substitution.Fields
import LineEditor.Substitution.Replacement

/-! A substitution replaces the matches of a pattern in a line: the first, or all of them. -/
namespace LineEditor

structure SubstitutionFlags where
  global : Bool
  ignoreCase : Bool
  print : Bool
  deriving DecidableEq, Repr

structure Substitution where
  /-- None if the last pattern is meant. -/
  pattern : Option Text
  template : Text
  flags : SubstitutionFlags
  autoPrint : Bool
  deriving DecidableEq, Repr

namespace SubstitutionFlags

def none : SubstitutionFlags := ⟨false, false, false⟩

def add? (flags : SubstitutionFlags) : Char → Option SubstitutionFlags
  | 'g' => some { flags with global := true }
  | 'i' => some { flags with ignoreCase := true }
  | 'p' => some { flags with print := true }
  | _ => .none

def read : SubstitutionFlags → Text → Except EditorError SubstitutionFlags
  | flags, [] => .ok flags
  | flags, c :: t =>
      match flags.add? c with
      | some flags => read flags t
      | .none => .error .invalidSuffix

end SubstitutionFlags

namespace Substitution

/-- Reads the fields behind the verb. Without a last delimiter the result is printed. -/
def ofFields : List Text → Except EditorError Substitution
  | [_, pattern] => make pattern [] [] false
  | [_, pattern, replacement] => make pattern replacement [] true
  | [_, pattern, replacement, flags] => make pattern replacement flags false
  | _ => .error .invalidSyntax
where
  make (pattern replacement flags : Text) (print : Bool) : Except EditorError Substitution := do
    let flags ← SubstitutionFlags.none.read flags
    return {
      pattern := if pattern.isEmpty then none else some pattern
      template := toTemplate replacement
      flags
      autoPrint := flags.print || print }

def parse : Text → Except EditorError Substitution
  | 's' :: body =>
      let delimiter := body.head?.getD '/'
      if Text.isWhitespace delimiter then .error .invalidDelimiter
      else ofFields (splitFields delimiter body)
  | _ => .error .unknownCommand

def compile (s : Substitution) : Except EditorError (Option Regex) :=
  match s.pattern with
  | none => .ok none
  | some source =>
      match Regex.compile s.flags.ignoreCase source with
      | .ok r => .ok (some r)
      | .error _ => .error .invalidPattern

def replace? (s : Substitution) (r : Regex) (line : Text) : Option Text :=
  r.replace s.flags.global s.template line

def apply (s : Substitution) (r : Regex) (line : Text) : Text := (s.replace? r line).getD line

end Substitution

end LineEditor
