import LineEditor.Regex.Pattern
import LineEditor.Regex.Size
import LineEditor.Regex.Matching

/-! Compiled regular expressions: the text they were made from and the program that matches. -/
namespace LineEditor

structure Regex where
  source : Text
  ignoreCase : Bool
  program : Regex.Program
  names : List (Text × Nat)

namespace Regex

def compile (ignoreCase : Bool) (source : Text) : Except Refusal Regex := do
  let pattern ← Pattern.read ignoreCase source
  if pattern.expr.fits then
    return ⟨source, ignoreCase, .ofExpr pattern.expr pattern.groups, pattern.names⟩
  else .error .tooLarge

def find (r : Regex) (t : Text) : Option Match := r.program.find (.start t)

def isMatch (r : Regex) (t : Text) : Bool := (r.find t).isSome

def findAll (r : Regex) (t : Text) : List Match :=
  r.program.findAll (2 * t.length + 3) (.start t) none

def selected (r : Regex) (all : Bool) (t : Text) : List Match :=
  if all then r.findAll t else (r.find t).toList

end Regex

end LineEditor
