import LineEditor.Error
import LineEditor.Text.Lines

/-! The lines of a document. Addresses count them from 1; address 0 is the place in front of the
first line. An operation that refuses its range leaves the lines alone. -/
namespace LineEditor

structure Buffer where
  lines : List Text
  deriving DecidableEq, Repr

/-- Addresses are words of 64 bits. -/
def addressLimit : Nat := 0x10000000000000000

/-- The addresses from `first` up to `stop`, which is not one of them. -/
structure AddressRange where
  first : Nat
  stop : Nat
  deriving DecidableEq, Repr

namespace Buffer

def empty : Buffer := ⟨[]⟩

def lineCount (b : Buffer) : Nat := b.lines.length

def isEmpty (b : Buffer) : Bool := b.lines.isEmpty

def getLine (b : Buffer) : Nat → Option Text
  | 0 => none
  | n + 1 => b.lines[n]?

def numberFrom : Nat → List Text → List (Nat × Text)
  | _, [] => []
  | addr, line :: lines => (addr, line) :: numberFrom (addr + 1) lines

def linesIn (b : Buffer) (start stop : Nat) : List (Nat × Text) :=
  let first := max start 1
  numberFrom first ((b.lines.drop (first - 1)).take (stop + 1 - first))

/-- The lines of a range for any two addresses. The address behind the range has to be one too,
which shuts out the largest. -/
def linesIn? (b : Buffer) (start stop : Nat) : Except EditorError (List (Nat × Text)) :=
  if stop + 1 < addressLimit then .ok (b.linesIn start stop) else .error .addressOverflow

def spliceAt (b : Buffer) (n : Nat) (new : List Text) : Buffer :=
  ⟨b.lines.take n ++ new ++ b.lines.drop n⟩

def insertAfter (b : Buffer) (addr : Nat) (new : List Text) :
    Except EditorError (Buffer × AddressRange) :=
  if addr ≤ b.lineCount then .ok (b.spliceAt addr new, ⟨addr + 1, addr + 1 + new.length⟩)
  else .error .invalidAddress

/-- How many lines stand in front of a line that is inserted before `addr`. Before address 0 and
behind the last line both mean the end. -/
def countBefore (b : Buffer) (addr : Nat) : Nat :=
  if addr = 0 ∨ b.lineCount < addr then b.lineCount else addr - 1

def insertBefore (b : Buffer) (addr : Nat) (new : List Text) : Buffer × AddressRange :=
  let n := b.countBefore addr
  (b.spliceAt n new, ⟨n + 1, n + 1 + new.length⟩)

def delete (b : Buffer) (start stop : Nat) : Except EditorError (Buffer × List Text) :=
  if 1 ≤ start ∧ start ≤ stop ∧ stop ≤ b.lineCount then
    .ok (⟨b.lines.take (start - 1) ++ b.lines.drop stop⟩,
      (b.lines.drop (start - 1)).take (stop + 1 - start))
  else .error .invalidAddress

def replaceLine (b : Buffer) (addr : Nat) (line : Text) : Except EditorError Buffer :=
  if 1 ≤ addr ∧ addr ≤ b.lineCount then .ok ⟨b.lines.set (addr - 1) line⟩
  else .error .invalidAddress

def toText (b : Buffer) : Text := Text.joinLines '\n' b.lines

@[simp] theorem lineCount_spliceAt (b : Buffer) (n : Nat) (new : List Text) :
    (b.spliceAt n new).lineCount = b.lineCount + new.length := by
  simp [spliceAt, lineCount]
  omega

theorem countBefore_le (b : Buffer) (addr : Nat) : b.countBefore addr ≤ b.lineCount := by
  unfold countBefore
  split <;> omega

theorem getLine_isSome {b : Buffer} {addr : Nat} (first : 1 ≤ addr) (last : addr ≤ b.lineCount) :
    ∃ line, b.getLine addr = some line := by
  obtain ⟨n, rfl⟩ := Nat.exists_eq_add_of_le' first
  exact ⟨b.lines[n], List.getElem?_eq_getElem last⟩

theorem isEmpty_iff (b : Buffer) : b.isEmpty = true ↔ b.lineCount = 0 := by
  simp [isEmpty, lineCount]

end Buffer

end LineEditor
