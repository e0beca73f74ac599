import LineEditor.Unicode.Property
import LineEditor.Unicode.CaseFolding

/-! Regular expressions once their notation is read: sets of characters, assertions about the place
between two characters, and the ways to combine them. -/
namespace LineEditor.Regex

inductive WordEdge where
  | boundary
  | inside
  | start
  | stop
  | startHalf
  | stopHalf
  deriving DecidableEq, Repr

inductive Look where
  | textStart
  | textEnd
  | lineStart (crlf : Bool)
  | lineEnd (crlf : Bool)
  | word (edge : WordEdge) (unicode : Bool)
  deriving DecidableEq, Repr

def isWordAscii (c : Char) : Bool := c.isAlphanum || c = '_'

def isWord (unicode : Bool) (c : Char) : Bool :=
  if c.toNat < 0x80 then isWordAscii c else unicode && Unicode.word.contains c

def WordEdge.holds (edge : WordEdge) (before after : Bool) : Bool :=
  match edge with
  | .boundary => before != after
  | .inside => before == after
  | .start => !before && after
  | .stop => before && !after
  | .startHalf => !before
  | .stopHalf => !after

/-- Whether an assertion holds between two characters; there is none at an end of the text. With
`crlf` the two characters of a line end are not parted. -/
def Look.holds (look : Look) (before after : Option Char) : Bool :=
  match look with
  | .textStart => before.isNone
  | .textEnd => after.isNone
  | .lineStart false => before.isNone || before == some '\n'
  | .lineEnd false => after.isNone || after == some '\n'
  | .lineStart true =>
      before.isNone || before == some '\n' || (before == some '\r' && after != some '\n')
  | .lineEnd true =>
      after.isNone || after == some '\r' || (after == some '\n' && before != some '\r')
  | .word edge unicode => edge.holds (before.any (isWord unicode)) (after.any (isWord unicode))

inductive Expr where
  | empty
  /-- Sets that were read with Unicode switched on and off are never taken for the same. -/
  | set (s : CharSet) (ascii : Bool := false)
  | look (l : Look)
  | seq (a b : Expr)
  | alt (a b : Expr)
  | loop (min : Nat) (max : Option Nat) (greedy : Bool) (body : Expr)
  | group (index : Nat) (body : Expr)
  deriving DecidableEq, Repr

namespace Expr

def nullable : Expr → Bool
  | empty => true
  | set _ _ => false
  | look _ => true
  | seq a b => a.nullable && b.nullable
  | alt a b => a.nullable || b.nullable
  | loop min _ _ body => min = 0 || body.nullable
  | group _ body => body.nullable

def onlyEmpty : Expr → Bool
  | empty => true
  | set _ _ => false
  | look _ => true
  | seq a b => a.onlyEmpty && b.onlyEmpty
  | alt a b => a.onlyEmpty && b.onlyEmpty
  | loop _ _ _ body => body.onlyEmpty
  | group _ body => body.onlyEmpty

/-- A set in its least form. A set of one character is the character, and a set of none is the same
with and without Unicode. -/
def ofSet (s : CharSet) (unicode : Bool) : Expr :=
  set s (!unicode && !s.isEmpty && s.single?.isNone)

/-- A loop in its least form: what can only be empty is matched at most once, and a loop of at most
no rounds or of exactly one is no loop. -/
def repeated (min : Nat) (max : Option Nat) (greedy : Bool) (body : Expr) : Expr :=
  let (min, max) :=
    if body.onlyEmpty then (Nat.min min 1, some ((max.map (Nat.min · 1)).getD 1)) else (min, max)
  if min = 0 ∧ max = some 0 then empty
  else if min = 1 ∧ max = some 1 then body
  else loop min max greedy body

def items : Expr → List Expr
  | empty => []
  | seq a b => a.items ++ b.items
  | e => [e]

def chain : List Expr → Expr
  | [] => empty
  | [e] => e
  | e :: es => seq e (chain es)

def sequence (es : List Expr) : Expr := chain (es.flatMap items)

def branches : Expr → List Expr
  | alt a b => a.branches ++ b.branches
  | e => [e]

def firstOf : List Expr → Expr
  | [] => empty
  | [e] => e
  | e :: es => alt e (firstOf es)

def isLiteral : Expr → Bool
  | set s _ => s.single?.isSome
  | _ => false

def unionOfSets : List Expr → Option CharSet
  | [] => some .empty
  | set s _ :: es => (unionOfSets es).map s.union
  | _ => none

/-- Characters alone become one set, and so do larger sets. -/
def merged? (es : List Expr) : Option Expr :=
  if es.all isLiteral || !es.any isLiteral then (unionOfSets es).map (ofSet · true) else none

def words : List Expr → List (List Expr)
  | [] => []
  | e :: es =>
      match words es with
      | (f :: fs) :: more =>
          if e.isLiteral && f.isLiteral then (e :: f :: fs) :: more else [e] :: (f :: fs) :: more
      | more => [e] :: more

def sharedFront : List (List Expr) → List (List Expr) → List (List Expr)
  | a :: as, b :: bs => if a = b then a :: sharedFront as bs else []
  | _, _ => []

/-- What all alternatives begin with, if each of them is a sequence of two words or items at least. -/
def commonFront : List Expr → List (List Expr)
  | [] => []
  | e :: es =>
      if (e :: es).any fun e => (words e.items).length < 2 then []
      else es.foldl (fun front e => sharedFront front (words e.items)) (words e.items)

def choice (es : List Expr) : Expr := (merged? es).getD (firstOf es)

/-- Alternatives in their least form: what all of them begin with is taken out in front. -/
def alternatives (es : List Expr) : Expr :=
  let es := es.flatMap branches
  let front := (commonFront es).flatten
  if front.isEmpty then choice es
  else sequence (front ++ [choice (es.flatMap fun e => (chain (e.items.drop front.length)).branches)])

end Expr

end LineEditor.Regex
