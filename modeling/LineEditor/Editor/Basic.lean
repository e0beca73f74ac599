import LineEditor.Document
import LineEditor.Regex.Basic

/-! An editor is a document with what is remembered from one command to the next. -/
namespace LineEditor

structure Editor where
  document : Document
  lastPattern : Option Regex
  lastError : Option EditorError

inductive Outcome where
  | proceed
  | quit
  deriving DecidableEq, Repr

structure Reply where
  editor : Editor
  result : Except EditorError Outcome

namespace Editor

def ofDocument (d : Document) : Editor := ⟨d, none, none⟩

def empty : Editor := ofDocument .empty

def withDocument (e : Editor) (d : Document) : Editor := { e with document := d }

def moveTo (e : Editor) (addr : Nat) : Editor :=
  e.withDocument { e.document with cursor := addr }

def proceed (e : Editor) : Dialogue Reply := .done ⟨e, .ok .proceed⟩

def refuse (e : Editor) (error : EditorError) : Dialogue Reply := .done ⟨e, .error error⟩

def printing (e : Editor) : List Text → Dialogue Reply → Dialogue Reply
  | [], next => next
  | line :: lines, next =>
      .print line fun printed =>
        if printed then e.printing lines next else e.refuse .cannotWriteOutput

end Editor

end LineEditor
