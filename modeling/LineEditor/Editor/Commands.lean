import LineEditor.Editor.Basic
import LineEditor.Editor.Invocation
import LineEditor.Substitution.Basic
import LineEditor.Text.Decimal

/-! What each verb does. The range was found good before. A command that fails has not changed the
lines, except that it may fail at printing what it has done. -/
namespace LineEditor.Editor

def bare (e : Editor) (i : Invocation) (command : Dialogue Reply) : Dialogue Reply :=
  if i.isBare then command else e.refuse .invalidSuffix

def onLines (e : Editor) (command : Dialogue Reply) : Dialogue Reply :=
  if e.document.buffer.isEmpty then e.refuse .invalidAddress else command

def adopt (e : Editor) : Except EditorError Document → Dialogue Reply
  | .ok d => (e.withDocument d).proceed
  | .error error => e.refuse error

def confirming (e : Editor) (command : Editor → Dialogue Reply) : Dialogue Reply :=
  match e.document.confirmDiscard with
  | (.ok _, d) => command (e.withDocument d)
  | (.error error, d) => (e.withDocument d).refuse error

def reportCount (e : Editor) (outcome : Outcome) :
    Except EditorError Nat × Document → Dialogue Reply
  | (.ok count, d) =>
      let e := e.withDocument d
      e.printing [Text.decimal count] (.done ⟨e, .ok outcome⟩)
  | (.error error, d) => (e.withDocument d).refuse error

def printRange (e : Editor) (mode : PrintMode) (i : Invocation) : Dialogue Reply :=
  e.bare i <| e.onLines <|
    e.printing ((e.document.buffer.linesIn i.start i.stop).map fun (addr, line) =>
      mode.render addr line) (e.moveTo i.stop).proceed

def insertBlock (e : Editor) (position : InsertPosition) (i : Invocation) : Dialogue Reply :=
  e.bare i <| .readBlock fun
    | some block => e.adopt (e.document.insert position i.stop block)
    | none => e.refuse .cannotReadInput

def deleteRange (e : Editor) (i : Invocation) : Dialogue Reply :=
  e.bare i <| e.onLines <| e.adopt ((e.document.delete i.start i.stop).map (·.1))

/-- The new lines are read before the old ones are taken out. -/
def changeRange (e : Editor) (i : Invocation) : Dialogue Reply :=
  e.bare i <| e.onLines <| .readBlock fun
    | some block => e.adopt do
        let (d, _) ← e.document.delete i.start i.stop
        d.insert .before i.start block
    | none => e.refuse .cannotReadInput

def loadFile (e : Editor) (guarded : Bool) (i : Invocation) : Dialogue Reply :=
  if i.word ≠ [i.verb] then e.refuse .invalidSuffix
  else match i.filename with
    | none => e.refuse .noFilename
    | some name =>
        let load (e : Editor) := (e.document.load name).bind (e.reportCount .proceed)
        if guarded then e.confirming load else load e

def saveFile (e : Editor) (i : Invocation) : Dialogue Reply :=
  let save (outcome : Outcome) := (e.document.save i.filename).bind (e.reportCount outcome)
  if i.word = ['w'] then save .proceed
  else if i.word = ['w', 'q'] then save .quit
  else e.refuse .invalidSuffix

def explain (e : Editor) (i : Invocation) : Dialogue Reply :=
  e.bare i <| e.printing (e.lastError.toList.map (·.message.toList)) e.proceed

def leave (e : Editor) (guarded : Bool) (i : Invocation) : Dialogue Reply :=
  let quit (e : Editor) : Dialogue Reply := .done ⟨e, .ok .quit⟩
  e.bare i <| if guarded then e.confirming quit else quit e

def rewriteLines (s : Substitution) (r : Regex) :
    List Nat → Buffer → Except EditorError Unit × Buffer
  | [], b => (.ok (), b)
  | addr :: addrs, b =>
      match (b.getLine addr).bind (s.replace? r) with
      | none => rewriteLines s r addrs b
      | some line =>
          match b.replaceLine addr line with
          | .ok b => rewriteLines s r addrs b
          | .error error => (.error error, b)

/-- The document counts as changed even if the pattern matches nowhere. -/
def substituteWith (e : Editor) (s : Substitution) (r : Regex) (i : Invocation) : Dialogue Reply :=
  let e := { e with lastPattern := some r }
  match rewriteLines s r (List.range' i.start (i.stop + 1 - i.start)) e.document.buffer with
  | (.error error, buffer) => (e.withDocument { e.document with buffer }).refuse error
  | (.ok (), buffer) =>
      let e := e.withDocument { e.document with buffer, cursor := i.stop, modified := true }
      let shown := if s.autoPrint then (buffer.getLine i.stop).toList else []
      e.printing shown e.proceed

def substitute (e : Editor) (i : Invocation) : Dialogue Reply :=
  match Substitution.parse i.text with
  | .error error => e.refuse error
  | .ok s => e.onLines <|
      match s.compile with
      | .error error => e.refuse error
      | .ok own =>
          match own.or e.lastPattern with
          | none => e.refuse .noPreviousPattern
          | some r => e.substituteWith s r i

def run (e : Editor) (i : Invocation) : Verb → Dialogue Reply
  | .print mode => e.printRange mode i
  | .insert position => e.insertBlock position i
  | .delete => e.deleteRange i
  | .change => e.changeRange i
  | .load guarded => e.loadFile guarded i
  | .save => e.saveFile i
  | .help => e.explain i
  | .quit guarded => e.leave guarded i
  | .substitute => e.substitute i

end LineEditor.Editor
