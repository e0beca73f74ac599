import LineEditor.Buffer

/-! Searches go round the document once and come to the line they started from last. -/
namespace LineEditor

inductive Direction where
  | forward
  | backward
  deriving DecidableEq, Repr

namespace Direction

def ofDelimiter? : Char → Option Direction
  | '/' => some forward
  | '?' => some backward
  | _ => none

def delimiter : Direction → Char
  | forward => '/'
  | backward => '?'

@[simp] theorem ofDelimiter?_delimiter (d : Direction) : ofDelimiter? d.delimiter = some d := by
  cases d <;> rfl

def step : Direction → Nat → Nat → Nat
  | forward, count, addr => addr % count + 1
  | backward, count, addr => if addr ≤ 1 then count else addr - 1

end Direction

namespace Buffer

/-- Goes `steps` lines on from `addr`. The answer is the first address whose line passes, and the
lines that were tested. -/
def searchFrom (b : Buffer) (d : Direction) (test : Text → Bool) :
    Nat → Nat → Option Nat × List Text
  | 0, _ => (none, [])
  | steps + 1, addr =>
      let addr := d.step b.lineCount addr
      match b.getLine addr with
      | some line =>
          if test line then (some addr, [line])
          else
            let (found, tested) := searchFrom b d test steps addr
            (found, line :: tested)
      | none => searchFrom b d test steps addr

def searchTested (b : Buffer) (start : Nat) (d : Direction) (test : Text → Bool) :
    Option Nat × List Text :=
  b.searchFrom d test b.lineCount (min start b.lineCount)

def search (b : Buffer) (start : Nat) (d : Direction) (test : Text → Bool) :
    Except EditorError Nat :=
  match (b.searchTested start d test).1 with
  | some addr => .ok addr
  | none => .error .noMatch

end Buffer

end LineEditor
