import LineEditor.Buffer
import LineEditor.Dialogue

/-! The document that is edited: its lines, the current line, its file name, and whether it has
changes that were not written. -/
namespace LineEditor

structure Document where
  buffer : Buffer
  /-- The address of the current line, which is 0 if there are no lines. -/
  cursor : Nat
  modified : Bool
  filename : Option Text
  deriving DecidableEq, Repr

inductive InsertPosition where
  | before
  | after
  deriving DecidableEq, Repr

def clampAddress (addr count : Nat) : Nat := if count = 0 then 0 else max 1 (min addr count)

namespace Document

def ofBuffer (b : Buffer) : Document := ⟨b, b.lineCount, false, none⟩

def empty : Document := ofBuffer .empty

def setClamped (d : Document) (addr : Nat) : Document :=
  { d with cursor := clampAddress addr d.buffer.lineCount }

/-- Warns once if changes would be lost, and then takes them for given up. -/
def confirmDiscard (d : Document) : Except EditorError Unit × Document :=
  if d.modified then (.error .modified, { d with modified := false }) else (.ok (), d)

def afterInsert (d : Document) (addr : Nat) (b : Buffer) (range : AddressRange) : Document :=
  if range.first = range.stop then { d with buffer := b }.setClamped addr
  else { d with buffer := b, cursor := range.stop - 1, modified := true }

def insert (d : Document) (position : InsertPosition) (addr : Nat) (lines : List Text) :
    Except EditorError Document :=
  match position with
  | .before =>
      let (b, range) := d.buffer.insertBefore addr lines
      .ok (d.afterInsert addr b range)
  | .after => do
      let (b, range) ← d.buffer.insertAfter addr lines
      return d.afterInsert addr b range

def delete (d : Document) (start stop : Nat) : Except EditorError (Document × List Text) := do
  let (b, removed) ← d.buffer.delete start stop
  return ({ d with buffer := b, modified := true }.setClamped start, removed)

def ofLoaded (name : Text) (loaded : Loaded) : Document :=
  { ofBuffer ⟨loaded.lines⟩ with filename := some name }

def load (d : Document) (name : Text) : Dialogue (Except EditorError Nat × Document) :=
  .load name fun
    | .ok loaded => .done (.ok loaded.byteLength, ofLoaded name loaded)
    | .error _ => .done (.error .cannotOpen, d)

def save (d : Document) (name : Option Text) : Dialogue (Except EditorError Nat × Document) :=
  match name.or d.filename with
  | none => .done (.error .noFilename, d)
  | some target =>
      .save target d.buffer.lines fun
        | .ok count =>
            .done (.ok count, { d with filename := d.filename.or (some target), modified := false })
        | .error _ => .done (.error .cannotWrite, d)

@[simp] theorem setClamped_buffer (d : Document) (addr : Nat) :
    (d.setClamped addr).buffer = d.buffer := rfl

end Document

end LineEditor
