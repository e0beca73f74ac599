import LineEditor.Files.Tree

/-! A command as an exchange with its surroundings: it may read typed lines, print, load and save,
and each answer decides how it goes on. Nothing is said here about who answers. -/
namespace LineEditor

inductive Dialogue (α : Type) where
  | done (a : α)
  /-- Reads typed lines up to the end of the block; no answer if reading fails. -/
  | readBlock (next : Option (List Text) → Dialogue α)
  | print (line : Text) (next : Bool → Dialogue α)
  | load (name : Text) (next : Except FileError Loaded → Dialogue α)
  | save (name : Text) (lines : List Text) (next : Except FileError Nat → Dialogue α)

namespace Dialogue

variable {α β : Type}

def bind : Dialogue α → (α → Dialogue β) → Dialogue β
  | done a, f => f a
  | readBlock next, f => readBlock fun block => (next block).bind f
  | print line next, f => print line fun printed => (next printed).bind f
  | load name next, f => load name fun loaded => (next loaded).bind f
  | save name lines next, f => save name lines fun saved => (next saved).bind f

def map (f : α → β) (d : Dialogue α) : Dialogue β := d.bind (done ∘ f)

@[simp] theorem bind_done (a : α) (f : α → Dialogue β) : (done a).bind f = f a := rfl

end Dialogue

end LineEditor
