import LineEditor.Regex.Basic

/-! Replacement templates: `$$` is a dollar, and behind a dollar a name, bare or in braces, stands
for the text of a group. Every other character is itself. A bare name is as long as possible. -/
namespace LineEditor.Regex

inductive TemplatePart where
  | char (c : Char)
  | number (n : Nat)
  | name (name : Text)
  deriving DecidableEq, Repr

def isReferenceChar (c : Char) : Bool := c.isAlphanum || c = '_'

def reference (name : Text) : TemplatePart :=
  if !name.isEmpty && name.all Char.isDigit then .number (Text.number name) else .name name

/-- Each part takes at least one character. -/
def readTemplate : Nat → Text → List TemplatePart
  | 0, _ => []
  | _ + 1, [] => []
  | fuel + 1, '$' :: '$' :: t => .char '$' :: readTemplate fuel t
  | fuel + 1, '$' :: '\x7b' :: t =>
      match t.dropWhile (· ≠ '\x7d') with
      | _ :: rest => reference (t.takeWhile (· ≠ '\x7d')) :: readTemplate fuel rest
      | [] => .char '$' :: readTemplate fuel ('\x7b' :: t)
  | fuel + 1, '$' :: t =>
      let name := t.takeWhile isReferenceChar
      if name.isEmpty then .char '$' :: readTemplate fuel t
      else reference name :: readTemplate fuel (t.dropWhile isReferenceChar)
  | fuel + 1, c :: t => .char c :: readTemplate fuel t

def templateParts (template : Text) : List TemplatePart := readTemplate template.length template

def Span.of (s : Span) (t : Text) : Text := (t.drop s.start).take (s.stop - s.start)

/-- The text of a group; it is empty if there is no such group or it took no part in the match. -/
def groupText (t : Text) (m : Match) (n : Nat) : Text :=
  match m.group n with
  | some span => span.of t
  | none => []

def expandPart (r : Regex) (t : Text) (m : Match) : TemplatePart → Text
  | .char c => [c]
  | .number n => groupText t m n
  | .name name =>
      match r.names.find? (·.1 = name) with
      | some (_, n) => groupText t m n
      | none => []

def expand (r : Regex) (t : Text) (m : Match) (parts : List TemplatePart) : Text :=
  parts.flatMap (r.expandPart t m)

/-- Puts a text in the place of every match. The matches are in order and do not overlap; `offset`
is where `rest` begins. -/
def splice (replacement : Match → Text) : Nat → Text → List Match → Text
  | _, rest, [] => rest
  | offset, rest, m :: more =>
      rest.take (m.span.start - offset) ++ replacement m ++
        splice replacement m.span.stop (rest.drop (m.span.stop - offset)) more

def replace (r : Regex) (all : Bool) (template : Text) (t : Text) : Option Text :=
  match r.selected all t with
  | [] => none
  | ms => some (splice (fun m => r.expand t m (templateParts template)) 0 t ms)

end LineEditor.Regex
