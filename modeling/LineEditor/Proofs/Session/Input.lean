import LineEditor.Proofs.Session.Rounds
import LineEditor.Proofs.Editor.Typing

/-! Command lines and typed lines come from one input, and no line of it is lost, read twice or taken
for the other kind. What is typed for a command is inserted by it, but for one case: a change of line
0, which a document with lines has only when a file was loaded and the output failed. -/
namespace LineEditor

open Editor

theorem tryExecute_printed (e : Editor) (line : Text) {s : Surroundings} (room : s.sink.room = none) :
    ((e.tryExecute line).run s).1.result ≠ .error .cannotWriteOutput := by
  have goes := (e.tryExecute line).goes_exchanges s
  intro failed
  rcases tryExecute_cases goes with ⟨error, refusal, -, same⟩ | ⟨r, verb, raw, -, -, ending, same⟩
  · rw [same] at failed
    cases failed
    exact absurd rfl refusal.2
  · rw [same, settle_result] at failed
    obtain ⟨line, member⟩ := ending.exists_unprinted failed
    exact (e.tryExecute _).allPrinted_exchanges room line member

namespace Round

variable {r : Round}

theorem Runs.left_source (runs : r.Runs) :
    r.left.source = ((r.editor.tryExecute r.command).run r.opened).2.source := by
  rw [← execute_source]
  exact congrArg (·.2.source) runs.run_eq.2.symm

theorem Runs.after_document (runs : r.Runs) :
    r.after.document = ((r.editor.tryExecute r.command).run r.opened).1.editor.document := by
  rw [← execute_document, runs.run_eq.1]

def Delivered (r : Round) : Prop :=
  Source.terminator ∈ r.behind.lines ∨ r.behind.fails = false

structure SharesInput (r : Round) : Prop where
  asked : (∃ res, r.editor.Asks r.command res) → r.typed = Source.takenOf r.behind.lines
  unasked : (¬ ∃ res, r.editor.Asks r.command res) → r.typed = []
  inserted : ∀ res, r.editor.Asks r.command res → r.Delivered →
    (res.verb = 'c' → res.start ≠ 0) →
    Inserts res r.editor.document.buffer.lines (Source.blockOf r.behind.lines)
      r.after.document.buffer.lines
  kept : ∀ res, r.editor.Asks r.command res → res.verb = 'c' → res.start = 0 →
    r.after.document.buffer = r.editor.document.buffer

theorem Runs.sharesInput (runs : r.Runs) : r.SharesInput where
  asked := by
    rintro ⟨res, asks⟩
    have left : r.left.source.lines = Source.behindBlock r.behind.lines := by
      rw [runs.left_source, (tryExecute_readsOnce asks).run_source, Source.readBlock_eq]
      rfl
    have whole : r.typed ++ r.left.source.lines = r.behind.lines := rfl
    rw [← Source.takenOf_append_behindBlock r.behind.lines, left] at whole
    exact List.append_cancel_right whole
  unasked := by
    intro silent
    have left : r.left.source.lines = r.behind.lines := by
      rw [runs.left_source, (tryExecute_silent silent).run_source]
      rfl
    have whole : r.typed ++ r.left.source.lines = [] ++ r.behind.lines := rfl
    rw [left] at whole
    exact List.append_cancel_right whole
  inserted := by
    intro res asks delivered place
    have received := r.behind.readBlock_eq
    rw [if_pos (show Source.terminator ∈ r.behind.lines ∨ r.behind.fails = false from delivered)]
      at received
    obtain ⟨d, reply, inserts⟩ :=
      @Asks.inserts r.editor r.command res r.opened _ _ asks received place
    rw [runs.after_document, reply]
    exact inserts
  kept := by
    intro res asks letter place
    rw [runs.after_document]
    exact asks.kept letter place

theorem Runs.cursorInside (runs : r.Runs) (room : r.surroundings.sink.room = none)
    (inside : r.editor.document.CursorInside) : r.after.document.CursorInside := by
  obtain ⟨xs, goes, -⟩ := (r.editor.tryExecute r.command).goes_run r.opened
  rw [runs.after_document]
  refine tryExecute_cursorInside goes (fun untold => ?_) inside
  exact tryExecute_printed (s := r.opened) r.editor r.command room untold.1

theorem Runs.room (runs : r.Runs) (room : r.surroundings.sink.room = none) :
    r.left.sink.room = none := by
  have after : r.left = ((r.editor.execute r.command).run r.opened).2.collect.2 := by
    rw [runs.run_eq.2]
  rw [after]
  exact (r.editor.execute r.command).run_room (s := r.opened) room

end Round

/-- A change of line 0 in a document with lines needs a current line outside of it. -/
theorem Editor.Asks.start_ne_zero {e : Editor} {line : Text} {r : Resolution} (asks : e.Asks line r)
    (inside : e.document.CursorInside) (letter : r.verb = 'c') : r.start ≠ 0 := by
  have range : r.Inside e.document.buffer :=
    (resolve_meets ..).value r asks.resolution (e.document.cursorInside_iff.mp inside)
  have lines : e.document.buffer.lines ≠ [] := by
    rcases asks.verb with other | other | ⟨-, lines⟩
    · rw [letter] at other
      cases other
    · rw [letter] at other
      cases other
    · exact lines
  rintro zero
  have first := ((e.document.buffer.holds_iff _).mp range.start).2
  exact lines (List.length_eq_zero_iff.mp (first.resolve_left (by omega)))

/-- The lines of the input are, in order, the command lines that are executed, each with the lines
that are typed for it, and what is left. A command takes further lines just when it asks for them; it
takes them up to the first terminator and inserts them without it, unless it is a change of line 0.
While the output works there is no such change. -/
theorem session_shares_input (e : Editor) (s : Surroundings) :
    ∃ rounds last left, Rounds e s rounds last left ∧
      Ends rounds last left (session e s).1 (session e s).2.1 (session e s).2.2 ∧
      s.source.lines = rounds.flatMap (fun r => r.command :: r.typed) ++ left.source.lines ∧
      (∀ r ∈ rounds, r.SharesInput) ∧
      (e.document.CursorInside → s.sink.room = none →
        ∀ r ∈ rounds, ∀ res, r.editor.Asks r.command res → res.verb = 'c' → res.start ≠ 0) := by
  obtain ⟨rounds, last, left, run, ends⟩ := session_rounds e s
  refine ⟨rounds, last, left, run, ends, run.lines_eq, ?_, ?_⟩
  · exact fun r member => (run.runs r member).sharesInput
  · intro inside room r member res asks letter
    have sound := (run.preserved
      (P := fun e s => e.document.CursorInside ∧ s.sink.room = none)
      (fun r runs sound => ⟨runs.cursorInside sound.2 sound.1, runs.room sound.2⟩)
      ⟨inside, room⟩).1 r member
    exact asks.start_ne_zero sound.1 letter

/-- The output takes no line. A file is loaded into an empty document and the current line put back
to 0; the line typed for the change that follows is then nowhere. -/
theorem session_loses_typed_line :
    let line : Text := ['n', 'e', 'w']
    let input : List Text := [['E', ' ', 'f'], ['c'], line, ['.']]
    let s : Surroundings := ⟨⟨input, false⟩, ⟨[], some 0⟩, ⟨[], [([['f']], .file [120, 10])]⟩⟩
    let loaded : Editor := ⟨⟨⟨[['x']]⟩, 0, false, some ['f']⟩, none, some .cannotWriteOutput⟩
    let refused : Editor := { loaded with lastError := some .invalidAddress }
    (∃ r, loaded.Asks ['c'] r) ∧ line ∉ refused.document.buffer.lines ∧
      session .empty s =
        ([⟨some ['E', ' ', 'f'], [], loaded⟩, ⟨some ['c'], [], refused⟩], .endOfInput,
          { s with source := ⟨[], false⟩ }) := by
  refine ⟨⟨_, rfl, .inr (.inr ⟨rfl, by decide⟩), rfl⟩, by decide, rfl⟩

end LineEditor
