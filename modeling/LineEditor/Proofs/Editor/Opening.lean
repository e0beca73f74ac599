import LineEditor.Proofs.Editor.Saving

/-! A session begins with a file as if the file had been loaded by a command. The two only part when
the file cannot be read: a session keeps the name then, so that it can be written. -/
namespace LineEditor

def Surroundings.showing (s : Surroundings) (line : Text) : Surroundings :=
  { s with sink := { s.sink with printed := s.sink.printed ++ [line] } }

namespace Editor

variable {e : Editor} {s : Surroundings} {name : Text} {loaded : Loaded} {error : FileError}

def opened (e : Editor) (name : Text) (loaded : Loaded) : Editor :=
  ⟨⟨⟨loaded.lines⟩, loaded.lines.length, false, some name⟩, e.lastPattern, e.lastError⟩

def unopened (e : Editor) : Editor := { e with lastError := some .cannotOpen }

section Startup

variable (room : s.sink.room = none)

include room

theorem report_run (e : Editor) (error : EditorError) :
    (e.report error).run s = ({ e with lastError := some error }, s.showing failureMark) := by
  simp [report, Dialogue.run, Sink.print, room, Surroundings.showing]

theorem openStartupFile_run (read : s.files.load name = .ok loaded) :
    (e.openStartupFile name).run s =
      (e.opened name loaded, s.showing (Text.decimal loaded.byteLength)) := by
  rw [openStartupFile, Dialogue.run_bind, Document.load_run read]
  simp only [Dialogue.run, Sink.print, room, if_true, Surroundings.showing]
  rfl

theorem openStartupFile_run_unread (unread : s.files.load name = .error error) :
    (e.openStartupFile name).run s =
      ((e.withDocument { e.document with filename := some name }).unopened,
        s.showing failureMark) := by
  rw [openStartupFile, Dialogue.run_bind, Document.load_run_unread unread]
  exact report_run room _ _

end Startup

section Guarded

variable {i j : Invocation}

theorem confirming_unmodified (unmodified : e.document.modified = false)
    (command : Editor → Dialogue Reply) : e.confirming command = command e := by
  simp only [confirming, Document.confirmDiscard, unmodified, Bool.false_eq_true, if_false]
  rfl

theorem loadFile_guarded (unmodified : e.document.modified = false) (word : i.word = [i.verb])
    (word' : j.word = [j.verb]) (same : i.filename = j.filename) :
    e.loadFile true i = e.loadFile false j := by
  simp only [loadFile, word, word', same, confirming_unmodified unmodified, ne_eq, not_true,
    if_false, if_true, Bool.false_eq_true]

theorem execute_guarded (unmodified : e.document.modified = false) (name : Text) :
    e.execute (named 'e' name) = e.execute (named 'E' name) := by
  have tried : e.tryExecute (named 'e' name) = e.tryExecute (named 'E' name) := by
    by_cases inside : e.document.cursor ≤ e.document.buffer.lineCount
    · let i := (e.here (named 'e' name)).invocation
      let j := (e.here (named 'E' name)).invocation
      have word : i.word = ['e'] := word_named (by decide) rfl
      have word' : j.word = ['E'] := word_named (by decide) rfl
      have work : e.run i (.load true) = e.run j (.load false) :=
        loadFile_guarded unmodified word word' rfl
      rw [@tryExecute_named e name 'e' (.load true) (by decide) rfl inside,
        @tryExecute_named e name 'E' (.load false) (by decide) rfl inside, work]
    · simp only [tryExecute, resolve_named (show isAddressChar 'e' = false by decide),
        resolve_named (show isAddressChar 'E' = false by decide), if_neg inside]
  rw [execute, execute, tried]

end Guarded

section Load

variable (nonempty : name ≠ []) (trimmed : name.Trimmed)
  (inside : e.document.cursor ≤ e.document.buffer.lineCount) (room : s.sink.room = none)

include nonempty trimmed inside

theorem tryExecute_load_unread (unread : s.files.load name = .error error) :
    (e.tryExecute (named 'E' name)).run s = (⟨e, .error .cannotOpen⟩, s) := by
  rw [tryExecute_load_eq nonempty trimmed inside, Dialogue.run_map, Dialogue.run_bind,
    Document.load_run_unread unread]
  rfl

include room

theorem execute_load_run (read : s.files.load name = .ok loaded) :
    (e.execute (named 'E' name)).run s =
      ((e.opened name loaded, .proceed), s.showing (Text.decimal loaded.byteLength)) := by
  rw [execute, Dialogue.run_bind, tryExecute_load nonempty trimmed room inside read]
  rfl

theorem execute_load_run_unread (unread : s.files.load name = .error error) :
    (e.execute (named 'E' name)).run s = ((e.unopened, .proceed), s.showing failureMark) := by
  rw [execute, Dialogue.run_bind, tryExecute_load_unread nonempty trimmed inside unread, conclude,
    Dialogue.run_map, report_run room]
  rfl

end Load

/-- A session that begins with a file and a command that loads it print the same and leave the same
of the surroundings. If the file can be read they leave the same editor, and if not, all that differs is
the name of the document. The command that asks before it drops changes is this command where there are
none. -/
theorem startup_agrees (inside : e.document.CursorInside) (nonempty : name ≠ [])
    (trimmed : name.Trimmed) (room : s.sink.room = none) :
    let started := (e.openStartupFile name).run s
    let edited := (e.execute (named 'E' name)).run s
    edited.1.2 = .proceed ∧ edited.2 = started.2 ∧
      (∀ loaded, s.files.load name = .ok loaded →
        started.1 = e.opened name loaded ∧ edited.1.1 = e.opened name loaded ∧
          started.2 = s.showing (Text.decimal loaded.byteLength)) ∧
      (∀ error, s.files.load name = .error error →
        started.1 = (e.withDocument { e.document with filename := some name }).unopened ∧
          edited.1.1 = e.unopened ∧ started.2 = s.showing failureMark) ∧
      (e.document.modified = false → e.execute (named 'e' name) = e.execute (named 'E' name)) := by
  intro started edited
  have holds := (e.document.buffer.holds_iff _).mp (e.document.cursorInside_iff.mp inside)
  cases answer : s.files.load name with
  | ok loaded =>
      have begun : started = _ := openStartupFile_run room answer
      have loads : edited = _ := execute_load_run nonempty trimmed holds.1 room answer
      rw [begun, loads]
      refine ⟨rfl, rfl, ?_, ?_, fun unmodified => execute_guarded unmodified name⟩
      · rintro _ ⟨⟩
        exact ⟨rfl, rfl, rfl⟩
      · rintro _ ⟨⟩
  | error error =>
      have begun : started = _ := openStartupFile_run_unread room answer
      have loads : edited = _ := execute_load_run_unread nonempty trimmed holds.1 room answer
      rw [begun, loads]
      refine ⟨rfl, rfl, ?_, ?_, fun unmodified => execute_guarded unmodified name⟩
      · rintro _ ⟨⟩
      · rintro _ ⟨⟩
        exact ⟨rfl, rfl, rfl⟩

theorem startup_agrees_spaced :
    let e : Editor := ⟨⟨⟨[['o'], []]⟩, 1, false, none⟩, none, some .noMatch⟩
    let s : Surroundings := ⟨⟨[['p']], true⟩, ⟨[['2']], none⟩, ⟨[], [([['a', ' ', 'b']], .file [120])]⟩⟩
    let loaded : Editor := ⟨⟨⟨[['x']]⟩, 1, false, some ['a', ' ', 'b']⟩, none, some .noMatch⟩
    (e.document.CursorInside ∧ Text.Trimmed ['a', ' ', 'b'] ∧
      s.files.load ['a', ' ', 'b'] = .ok ⟨[['x']], 1⟩ ∧ s.files.load ['g'] = .error .notFound) ∧
    ((e.openStartupFile ['a', ' ', 'b']).run s).1 = loaded ∧
    ((e.execute (named 'E' ['a', ' ', 'b'])).run s).1.1 = loaded ∧
    ((e.openStartupFile ['a', ' ', 'b']).run s).2.sink.printed = [['2'], ['1']] ∧
    ((e.openStartupFile ['g']).run s).1.document = ⟨⟨[['o'], []]⟩, 1, false, some ['g']⟩ ∧
    ((e.execute (named 'E' ['g'])).run s).1.1.document = e.document ∧
    e.execute (named 'e' ['g']) = e.execute (named 'E' ['g']) := by
  intro e s loaded
  have inside : e.document.CursorInside := by decide
  have spaced : Text.Trimmed ['a', ' ', 'b'] := by decide
  have read : s.files.load ['a', ' ', 'b'] = .ok ⟨[['x']], 1⟩ := rfl
  have unread : s.files.load ['g'] = .error .notFound := rfl
  obtain ⟨-, -, opens, -⟩ := startup_agrees (s := s) inside (List.cons_ne_nil _ _) spaced rfl
  obtain ⟨-, -, -, fails, guarded⟩ :=
    @startup_agrees e s ['g'] inside (List.cons_ne_nil _ _) (by decide) rfl
  obtain ⟨started, edited, printed⟩ := opens _ read
  obtain ⟨unstarted, unedited, -⟩ := fails _ unread
  refine ⟨⟨inside, spaced, read, unread⟩, started, edited, ?_, ?_, ?_, guarded rfl⟩
  · rw [printed]
    rfl
  · rw [unstarted]
    rfl
  · rw [unedited]
    rfl

end Editor

end LineEditor
