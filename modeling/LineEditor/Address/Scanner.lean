import LineEditor.Text.Basic

/-! A scanner reads a command line from the left and can look ahead. What it has taken for certain
is committed; what it tries beyond that can be given back. -/
namespace LineEditor

/-- Delimited text: everything up to the delimiter, and what follows it. A backslash takes the
delimiter its meaning and is then dropped; in front of any other character it is kept. -/
def readDelimited (delimiter : Char) : Text → Text × Text
  | [] => ([], [])
  | c :: t =>
      if c = delimiter then ([], t)
      else if c = '\\' then
        match t with
        | [] => (['\\'], [])
        | e :: t =>
            let (read, rest) := readDelimited delimiter t
            (if e = delimiter then e :: read else '\\' :: e :: read, rest)
      else
        let (read, rest) := readDelimited delimiter t
        (c :: read, rest)

structure Scanner where
  rest : Text
  /-- The text behind what was tried. -/
  ahead : Text
  deriving DecidableEq, Repr

namespace Scanner

def ofText (t : Text) : Scanner := ⟨t, t⟩

def peek (s : Scanner) : Option Char := s.ahead.head?

def commit (s : Scanner) : Scanner := { s with rest := s.ahead }

def rewind (s : Scanner) : Scanner := { s with ahead := s.rest }

def bump (s : Scanner) : Option Char × Scanner := (s.peek, { s with ahead := s.ahead.tail })

def eat (s : Scanner) (expected : Char) : Bool × Scanner :=
  if s.peek = some expected then (true, { s with ahead := s.ahead.tail }) else (false, s)

def skipBlanks (s : Scanner) : Scanner := ofText (Text.dropBlanks s.ahead)

def digits (s : Scanner) : Option Text × Scanner :=
  match s.ahead.takeWhile Char.isDigit with
  | [] => (none, s.rewind)
  | run => (some run, ofText (s.ahead.dropWhile Char.isDigit))

def delimited (s : Scanner) (delimiter : Char) : Text × Scanner :=
  let (read, rest) := readDelimited delimiter s.ahead
  (read, ofText rest)

@[simp] theorem rest_ofText (t : Text) : (ofText t).rest = t := rfl

@[simp] theorem peek_ofText (t : Text) : (ofText t).peek = t.head? := rfl

@[simp] theorem skipBlanks_ofText (t : Text) :
    (ofText t).skipBlanks = ofText (Text.dropBlanks t) := rfl

end Scanner

end LineEditor
