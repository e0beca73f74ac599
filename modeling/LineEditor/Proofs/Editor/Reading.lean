import LineEditor.Proofs.Editor.Saving
import LineEditor.Proofs.Editor.Typing
import LineEditor.Proofs.Text.Decoding

/-! What is typed and what is loaded is read alike. The same bytes give the same lines, whether they
are appended to an empty document or loaded from a file. -/
namespace LineEditor

theorem Source.readBlock_all {lines : List Text} (none : terminator ∉ lines) :
    (⟨lines, false⟩ : Source).readBlock = (some lines, ⟨[], false⟩) := by
  have kept : ∀ line ∈ lines, decide (line ≠ terminator) = true :=
    fun line member => decide_eq_true (ne_of_mem_of_not_mem member none)
  have taken := @List.takeWhile_append_of_pos _ _ lines [] kept
  have dropped := @List.dropWhile_append_of_pos _ _ lines [] kept
  rw [List.append_nil, List.takeWhile_nil, List.append_nil] at taken
  rw [List.append_nil, List.dropWhile_nil] at dropped
  rw [readBlock_eq, if_pos (.inr rfl), blockOf, taken, behindBlock, dropped, List.drop_nil]

namespace Editor

variable {e : Editor} {s : Surroundings} {name : Text}

theorem execute_append_lines {block : List Text} {rest : Source}
    (empty : e.document.buffer.lines = []) (inside : e.document.CursorInside)
    (received : s.source.readBlock = (some block, rest)) :
    ((e.execute ['a']).run s).1.1.document.buffer.lines = block := by
  have holds := (e.document.buffer.holds_iff _).mp (e.document.cursorInside_iff.mp inside)
  have resolution := @resolve_verb e.document.buffer e.document.cursor e.lastPattern ['a']
    (Text.free_cons 'a' (by decide)) (List.cons_ne_nil _ _)
  rw [if_pos holds.1] at resolution
  have asks : e.Asks ['a'] (e.here ['a']) := ⟨resolution, .inl rfl, rfl⟩
  have inserted : (e.here ['a']).verb ≠ 'c' := show 'a' ≠ 'c' by decide
  obtain ⟨d, reply, inserts⟩ := asks.inserts received fun letter => absurd letter inserted
  rw [Inserts, if_neg inserted] at inserts
  obtain ⟨n, lines⟩ := inserts
  rw [empty, List.take_nil, List.nil_append, List.drop_nil, List.append_nil] at lines
  rw [execute_document, reply, ← lines]
  rfl

theorem reportCount_document (count : Nat) (d : Document) (outcome : Outcome) (s : Surroundings) :
    ((e.reportCount outcome (.ok count, d)).run s).1.editor.document = d := by
  cases printed : (s.sink.print (Text.decimal count)).1 <;>
    simp [reportCount, printing, Dialogue.run, printed, refuse, withDocument]

theorem execute_load_lines {loaded : Loaded} (nonempty : name ≠ []) (trimmed : name.Trimmed)
    (inside : e.document.CursorInside) (read : s.files.load name = .ok loaded) :
    ((e.execute (named 'E' name)).run s).1.1.document.buffer.lines = loaded.lines := by
  have holds := (e.document.buffer.holds_iff _).mp (e.document.cursorInside_iff.mp inside)
  rw [execute_document, tryExecute_load_eq nonempty trimmed holds.1, Dialogue.run_map, settle_buffer,
    Dialogue.run_bind, Document.load_run read, reportCount_document]
  rfl

/-- Reading a stream to its end and cutting a file give the same lines, namely the pieces of the
whole text without an empty one at the end; a stream that fails there loses the piece without a
newline. So a document without lines, for which the bytes are
typed, has the lines of one into which they are loaded, unless one of the lines ends the typing. -/
theorem typed_as_loaded (bytes : Text.Bytes) :
    let lines := Text.pieces '\n' (Text.decode bytes)
    (∀ read, Drains bytes read ↔ read = lines) ∧
      (∀ fails, (Source.ofBytes bytes fails).lines =
        if fails then lines.take (bytes.count newlineByte) else lines) ∧
      (Loaded.ofBytes bytes).lines = lines ∧
      (Source.terminator ∉ lines →
        ∀ (typing loading : Editor) (s s' : Surroundings) (name : Text),
          typing.document.buffer.lines = [] → typing.document.CursorInside →
          s.source = .ofBytes bytes false →
          loading.document.CursorInside → name ≠ [] → name.Trimmed →
          s'.files.read name = .ok bytes →
          ((typing.execute ['a']).run s).1.1.document.buffer.lines = lines ∧
            ((loading.execute (named 'E' name)).run s').1.1.document.buffer.lines = lines) := by
  intro lines
  have streamed : linesOfBytes bytes = lines := linesOfBytes_eq_pieces bytes
  have cut : linesOfFile bytes = lines := (linesOfFile_eq_linesOfBytes bytes).trans streamed
  refine ⟨fun read => ?_, fun fails => ?_, cut, ?_⟩
  · rw [drains_iff, streamed]
  · cases fails with
    | false => exact streamed
    | true => exact (linesOfBytes_finishedLines bytes).trans (by rw [streamed]; rfl)
  · intro noEnd typing loading s s' name empty typed input inside nonempty trimmed file
    have received : s.source.readBlock = (some lines, ⟨[], false⟩) := by
      have stream : Source.ofBytes bytes false = ⟨lines, false⟩ :=
        congrArg (Source.mk · false) streamed
      rw [input, stream, Source.readBlock_all noEnd]
    have read : s'.files.load name = .ok (.ofBytes bytes) := by
      rw [FileTree.load, file]
      rfl
    refine ⟨execute_append_lines empty typed received, ?_⟩
    rw [execute_load_lines nonempty trimmed inside read]
    exact cut

theorem typed_as_loaded_broken :
    let bytes : Text.Bytes := [0xc3, 10, 10, 0xe2, 0x82]
    let lines : List Text := [['\ufffd'], [], ['\ufffd']]
    let files : FileTree := ⟨[], [([['f']], .file bytes)]⟩
    let s : Surroundings := ⟨.ofBytes bytes false, ⟨[], some 0⟩, files⟩
    let old : Editor := .ofDocument (.ofBuffer ⟨[['x']]⟩)
    (∀ read, Drains bytes read ↔ read = lines) ∧
      (Source.ofBytes bytes true).lines = lines.take 2 ∧ (Loaded.ofBytes bytes).lines = lines ∧
      ((Editor.empty.execute ['a']).run s).1.1.document.buffer.lines = lines ∧
      ((old.execute (named 'E' ['f'])).run s).1.1.document.buffer.lines = lines := by
  intro bytes lines files s old
  have whole : Text.pieces '\n' (Text.decode bytes) = lines := by decide
  obtain ⟨drained, streamed, cut, entered⟩ := typed_as_loaded bytes
  rw [whole] at drained streamed cut entered
  obtain ⟨typed, loaded⟩ := entered (by decide) .empty old s s ['f'] rfl (by decide) rfl (by decide)
    (by decide) (by decide) rfl
  exact ⟨drained, streamed true, cut, typed, loaded⟩

end Editor

end LineEditor
