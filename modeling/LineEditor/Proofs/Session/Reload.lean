import LineEditor.CommandLine
import LineEditor.Proofs.Editor.Saving
import LineEditor.Proofs.Editor.Unbroken
import LineEditor.Proofs.Session.Input

/-! Nothing is lost between writing and loading. In no session does a newline get into a line, so the
lines that are written are those that are read back. -/
namespace LineEditor

open Editor

def opening (filename : Option Text) (s : Surroundings) : Editor × List Text × Surroundings :=
  match filename with
  | some name => (Editor.empty.openStartupFile name).turn s
  | none => (.empty, [], s)

theorem Dialogue.turn_eq {α : Type} (d : Dialogue α) (s : Surroundings) :
    d.turn s = ((d.run s).1, (d.run s).2.collect) := rfl

theorem editSession_opening (filename : Option Text) (s : Surroundings) :
    editSession filename s =
      let (e, printed, left) := opening filename s
      let (steps, _, left) := session e left
      ⟨0, Text.joinLines '\n' (printed ++ steps.flatMap (·.printed)), left⟩ := by
  cases filename with
  | none => rfl
  | some name => rfl

structure Steady (e : Editor) (s : Surroundings) : Prop where
  document : Unbroken e.document.buffer.lines
  input : Unbroken s.source.lines
  room : s.sink.room = none
  collected : s.sink.printed = []

theorem Round.Runs.steady {r : Round} (runs : r.Runs) (h : Steady r.editor r.surroundings) :
    Steady r.after r.left := by
  have input : Unbroken (r.command :: (r.typed ++ r.left.source.lines)) := by
    rw [← runs.lines]
    exact h.input
  have typed : Unbroken r.opened.source.lines :=
    fun line member => input line (List.mem_cons_of_mem _ member)
  refine ⟨?_, ?_, runs.room h.room, ?_⟩
  · rw [runs.after_document]
    exact tryExecute_unbroken (input r.command List.mem_cons_self) typed h.document
  · exact fun line member => typed line (List.mem_append_right _ member)
  · exact congrArg (·.2.sink.printed) runs.run_eq.2.symm

theorem Steady.report {e : Editor} {s : Surroundings} (h : Steady e s) (error : EditorError) :
    Steady ((e.report error).turn s).1 ((e.report error).turn s).2.2 :=
  ⟨h.document, h.input, (e.report error).run_room h.room, rfl⟩

theorem unbroken_empty : Unbroken Editor.empty.document.buffer.lines := List.forall_mem_nil _

theorem openStartupFile_unbroken {name : Text} {after : Editor} {xs : List Exchange}
    (goes : (Editor.empty.openStartupFile name).Goes xs after) (outside : ∀ x ∈ xs, x.Unbroken) :
    Unbroken after.document.buffer.lines := by
  rcases openStartupFile_cases goes with ⟨loaded, member, same⟩ | same
  · rw [same]
    exact outside _ member loaded rfl
  · rw [same]
    exact unbroken_empty

theorem opening_steady (filename : Option Text) {s : Surroundings}
    (input : Unbroken s.source.lines) (room : s.sink.room = none)
    (collected : s.sink.printed = []) :
    Steady (opening filename s).1 (opening filename s).2.2 := by
  cases filename with
  | none => exact ⟨unbroken_empty, input, room, collected⟩
  | some name =>
      have silent := (openStartupFile_silent .empty name).run_source s
      have room := (Editor.empty.openStartupFile name).run_room room
      obtain ⟨xs, goes, possible⟩ := (Editor.empty.openStartupFile name).goes_run_possible s
      have document := openStartupFile_unbroken goes fun x member => (possible x member).unbroken input
      rw [← silent] at input
      rw [opening, Dialogue.turn_eq]
      exact ⟨document, input, room, rfl⟩

theorem execute_turn_ok {e after : Editor} {line : Text} {outcome : Outcome} {s left : Surroundings}
    (ran : (e.tryExecute line).run s = (⟨after, .ok outcome⟩, left)) :
    (e.execute line).turn s = ((after, outcome), left.collect) := by
  simp only [Dialogue.turn, execute, Dialogue.run_bind, ran, conclude, Dialogue.run]

theorem Steady.reloads {e : Editor} {s : Surroundings} (h : Steady e s) {name : Text}
    (nonempty : name ≠ []) (trimmed : name.Trimmed) {outcome : Outcome}
    (ok : ((e.tryExecute (named 'w' name)).run s).1.result = .ok outcome) :
    let count := fileLength e.document.buffer.lines
    ∃ written loaded between left,
      (e.execute (named 'w' name)).turn s = ((written, .proceed), [Text.decimal count], between) ∧
      (written.execute (named 'E' name)).turn between =
        ((loaded, .proceed), [Text.decimal count], left) ∧
      loaded.document = ⟨e.document.buffer, e.document.buffer.lineCount, false, some name⟩ := by
  intro count
  obtain ⟨files, size, saved, wrote⟩ := tryExecute_save nonempty trimmed h.room ok
  obtain ⟨read, counted⟩ := FileTree.load_save saved
  rw [Loaded.ofBytes, linesOfFile_eq_linesOfBytes, linesOfBytes_bytesOfLines h.document,
    ← counted] at read
  have same : size = count := counted.trans (length_bytesOfLines _)
  subst same
  let written := e.withDocument { e.document with
    filename := e.document.filename.or (some name), modified := false }
  let loaded := written.withDocument (.ofLoaded name ⟨e.document.buffer.lines, count⟩)
  let left : Surroundings := { s with sink := { s.sink with printed := [] }, files }
  have inside : e.document.cursor ≤ e.document.buffer.lineCount := cursor_le_of_ok (by decide) ok
  have room : left.sink.room = none := h.room
  have read := @tryExecute_load written left name nonempty trimmed room _ inside read
  refine ⟨written, loaded, left, left, ?_, ?_, ?_⟩
  · rw [execute_turn_ok wrote, Surroundings.collect, h.collected, List.nil_append]
  · rw [execute_turn_ok read, Surroundings.collect, List.nil_append]
  · rfl

/-- In every state of a session that begins with a file or with nothing, and whose output works, no
line holds a newline. If the document can be written under a name, then loading it again prints the
same count and brings back the same lines. -/
theorem session_reloads (filename : Option Text) (input : Text.Bytes) (fails : Bool)
    (files : FileTree) {e : Editor} {s : Surroundings}
    (reached : Reaches (opening filename ⟨.ofBytes input fails, ⟨[], none⟩, files⟩).1
      (opening filename ⟨.ofBytes input fails, ⟨[], none⟩, files⟩).2.2 e s) :
    (∀ line ∈ e.document.buffer.lines, '\n' ∉ line) ∧
      ∀ name : Text, name ≠ [] → name.Trimmed → ∀ outcome,
        ((e.tryExecute (named 'w' name)).run s).1.result = .ok outcome →
          let count := fileLength e.document.buffer.lines
          ∃ written loaded between left,
            (e.execute (named 'w' name)).turn s =
              ((written, .proceed), [Text.decimal count], between) ∧
            (written.execute (named 'E' name)).turn between =
              ((loaded, .proceed), [Text.decimal count], left) ∧
            loaded.document = ⟨e.document.buffer, e.document.buffer.lineCount, false, some name⟩ := by
  have start : Steady (opening filename ⟨.ofBytes input fails, ⟨[], none⟩, files⟩).1
      (opening filename ⟨.ofBytes input fails, ⟨[], none⟩, files⟩).2.2 :=
    opening_steady filename (newline_notMem_linesOfBytes _) rfl rfl
  have steady : Steady e s :=
    reached.preserved (fun r runs h => runs.steady h) (fun e s h => h.report _) start
  exact ⟨steady.document, fun name nonempty trimmed outcome ok =>
    steady.reloads nonempty trimmed ok⟩

theorem session_reloads_typed :
    let input : Text.Bytes := [97, 10, 195, 169, 10, 46, 10]
    let files : FileTree := ⟨[], [([['g']], .file [255])]⟩
    let s : Surroundings := ⟨⟨[], false⟩, ⟨[], none⟩, files⟩
    let start := opening (some ['g']) { s with source := .ofBytes input false }
    let e : Editor := ⟨⟨⟨[['\ufffd'], ['é']]⟩, 2, true, some ['g']⟩, none, none⟩
    Reaches start.1 start.2.2 e s ∧
      ((e.tryExecute (named 'w' ['f'])).run s).1.result = .ok .proceed ∧
      (∀ line ∈ e.document.buffer.lines, '\n' ∉ line) ∧
      ∃ written loaded between left,
        (e.execute (named 'w' ['f'])).turn s = ((written, .proceed), [['7']], between) ∧
        (written.execute (named 'E' ['f'])).turn between = ((loaded, .proceed), [['7']], left) ∧
        loaded.document = ⟨e.document.buffer, 2, false, some ['f']⟩ := by
  have opened : opening (some ['g'])
      ⟨.ofBytes [97, 10, 195, 169, 10, 46, 10] false, ⟨[], none⟩, ⟨[], [([['g']], .file [255])]⟩⟩ =
      (⟨⟨⟨[['\ufffd']]⟩, 1, false, some ['g']⟩, none, none⟩, [['1']],
        ⟨⟨[['a'], ['é'], ['.']], false⟩, ⟨[], none⟩, ⟨[], [([['g']], .file [255])]⟩⟩) := rfl
  have runs : Round.Runs ⟨⟨⟨⟨[['\ufffd']]⟩, 1, false, some ['g']⟩, none, none⟩,
      ⟨⟨[['a'], ['é'], ['.']], false⟩, ⟨[], none⟩, ⟨[], [([['g']], .file [255])]⟩⟩,
      ['a'], [['é'], ['.']], .proceed, [],
      ⟨⟨⟨[['\ufffd'], ['é']]⟩, 2, true, some ['g']⟩, none, none⟩,
      ⟨⟨[], false⟩, ⟨[], none⟩, ⟨[], [([['g']], .file [255])]⟩⟩⟩ := ⟨rfl, rfl⟩
  have shown : Text.decimal (fileLength [['\ufffd'], ['é']]) = ['7'] := rfl
  intro input files s start e
  have reached : Reaches start.1 start.2.2 e s := by
    rw [show start = _ from opened]
    exact .rounds (.cons runs (.nil e s))
  have ok : ((e.tryExecute (named 'w' ['f'])).run s).1.result = .ok .proceed := rfl
  obtain ⟨whole, again⟩ := session_reloads (some ['g']) input false files reached
  have again := again ['f'] (by decide) (by decide) .proceed ok
  dsimp only at again
  rw [show Text.decimal (fileLength e.document.buffer.lines) = ['7'] from shown] at again
  exact ⟨reached, ok, whole, again⟩

end LineEditor
