import LineEditor.Error
import LineEditor.Listing
import LineEditor.Document
import LineEditor.Text.Whitespace

/-! A command with its range: the verb says what is done, and the text holds the verb and all that
was typed behind it. -/
namespace LineEditor

structure Invocation where
  start : Nat
  stop : Nat
  verb : Char
  text : Text
  deriving DecidableEq, Repr

/-- What a verb does. A guarded one asks before it drops changes. -/
inductive Verb where
  | print (mode : PrintMode)
  | insert (position : InsertPosition)
  | delete
  | change
  | load (guarded : Bool)
  | save
  | help
  | quit (guarded : Bool)
  | substitute
  deriving DecidableEq, Repr

def Verb.ofChar? : Char → Option Verb
  | 'p' => some (print .plain)
  | 'n' => some (print .numbered)
  | 'l' => some (print .unambiguous)
  | 'i' => some (insert .before)
  | 'a' => some (insert .after)
  | 'd' => some delete
  | 'c' => some change
  | 'e' => some (load true)
  | 'E' => some (load false)
  | 'w' => some save
  | 'h' => some help
  | 'q' => some (quit true)
  | 'Q' => some (quit false)
  | 's' => some substitute
  | _ => none

namespace Invocation

def suffix (i : Invocation) : Text := Text.dropBytes i.verb.utf8Size i.text

def word (i : Invocation) : Text := Text.firstWord i.text

def filename (i : Invocation) : Option Text :=
  let name := Text.trim (Text.afterFirstWord i.text)
  if name.isEmpty then none else some name

def isBare (i : Invocation) : Bool := (Text.trim i.suffix).isEmpty

def expectNoSuffix (i : Invocation) : Except EditorError Unit :=
  if i.isBare then .ok () else .error .invalidSuffix

end Invocation

end LineEditor
