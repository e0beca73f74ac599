import LineEditor.Editor.Commands
import LineEditor.Address.Resolution

/-! Command lines: the range is found, the verb is run, and a failure is told to the user. A command
that fails leaves the current line and the last pattern as they were. -/
namespace LineEditor

def Resolution.invocation (r : Resolution) : Invocation := ⟨r.start, r.stop, r.verb, r.rest⟩

namespace Editor

def resolved (e : Editor) (r : Resolution) : Editor :=
  { e.moveTo r.current with lastPattern := r.pattern.or e.lastPattern }

/-- Puts the current line and the last pattern back after a failure. The warning of unwritten
changes is no failure of that kind: it is what the command does. -/
def settle (before : Editor) (reply : Reply) : Reply :=
  match reply.result with
  | .ok _ | .error .modified => reply
  | .error _ =>
      { reply with editor :=
        { reply.editor.moveTo before.document.cursor with lastPattern := before.lastPattern } }

def tryExecute (e : Editor) (line : Text) : Dialogue Reply :=
  match resolve line e.document.buffer e.document.cursor e.lastPattern with
  | .error error => e.refuse error
  | .ok r =>
      match Verb.ofChar? r.verb with
      | none => e.refuse .unknownCommand
      | some verb => ((e.resolved r).run r.invocation verb).map e.settle

def failureMark : Text := ['?']

def report (e : Editor) (error : EditorError) : Dialogue Editor :=
  .print failureMark fun _ => .done { e with lastError := some error }

def conclude (reply : Reply) : Dialogue (Editor × Outcome) :=
  match reply.result with
  | .ok outcome => .done (reply.editor, outcome)
  | .error error => (reply.editor.report error).map (·, .proceed)

def execute (e : Editor) (line : Text) : Dialogue (Editor × Outcome) :=
  (e.tryExecute line).bind conclude

/-- Loads the file a session begins with. If there is none its name is kept all the same, so that it
can be written. -/
def openStartupFile (e : Editor) (name : Text) : Dialogue Editor :=
  (e.document.load name).bind fun
    | (.ok count, d) =>
        let e := e.withDocument d
        .print (Text.decimal count) fun printed =>
          if printed then .done e else e.report .cannotWriteOutput
    | (.error error, d) => (e.withDocument { d with filename := some name }).report error

end Editor

end LineEditor
