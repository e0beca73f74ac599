import LineEditor.Proofs.Address.Whole
import LineEditor.Proofs.Editor.Output
import LineEditor.Proofs.Text.Lines

/-! A listing of all lines can be read back. An escape begins with a backslash, and no other character
is shown as one; a newline is shown as an escape, so a line of the output is a line of the
document. -/
namespace LineEditor

def unescapedChar : Char → Char
  | 't' => '\t'
  | 'a' => '\x07'
  | 'b' => '\x08'
  | 'r' => '\r'
  | 'n' => '\n'
  | c => c

def unescape : Text → Text
  | '\\' :: letter :: t => unescapedChar letter :: unescape t
  | c :: t => c :: unescape t
  | [] => []

def readListing (listing : Text) : List Text :=
  (Text.pieces '\n' listing).map fun line => unescape line.dropLast

theorem escapeChar_cases (c : Char) :
    (∃ letter, escapeChar c = ['\\', letter] ∧ unescapedChar letter = c ∧ letter ≠ '\n') ∨
      escapeChar c = [c] ∧ c ≠ '\\' ∧ c ≠ '\n' := by
  unfold escapeChar
  split
  · exact .inl ⟨'\\', rfl, rfl, by decide⟩
  · exact .inl ⟨'t', rfl, rfl, by decide⟩
  · exact .inl ⟨'a', rfl, rfl, by decide⟩
  · exact .inl ⟨'b', rfl, rfl, by decide⟩
  · exact .inl ⟨'r', rfl, rfl, by decide⟩
  · exact .inl ⟨'n', rfl, rfl, by decide⟩
  · next other _ _ _ _ newline => exact .inr ⟨rfl, other, newline⟩

theorem unescape_cons {c : Char} (h : c ≠ '\\') (t : Text) : unescape (c :: t) = c :: unescape t := by
  rw [unescape]
  exact fun letter rest begins => absurd begins h

theorem unescape_escapeChar (c : Char) (t : Text) : unescape (escapeChar c ++ t) = c :: unescape t := by
  rcases escapeChar_cases c with ⟨letter, shown, stands, -⟩ | ⟨shown, other, -⟩
  · rw [shown, ← stands]
    rfl
  · rw [shown, List.singleton_append, unescape_cons other]

theorem unescape_flatMap (line : Text) : unescape (line.flatMap escapeChar) = line := by
  induction line with
  | nil => rfl
  | cons c line ih => rw [List.flatMap_cons, unescape_escapeChar, ih]

theorem unescape_escapeLine (line : Text) : unescape (escapeLine line).dropLast = line := by
  rw [escapeLine, List.dropLast_concat, unescape_flatMap]

theorem newline_notMem_escapeLine (line : Text) : '\n' ∉ escapeLine line := by
  rw [escapeLine, List.mem_append, List.mem_flatMap, List.mem_singleton]
  rintro (⟨c, -, member⟩ | ending)
  · rcases escapeChar_cases c with ⟨letter, shown, -, other⟩ | ⟨shown, -, other⟩
    · rw [shown] at member
      simp [Ne.symm other] at member
    · rw [shown, List.mem_singleton] at member
      exact other member.symm
  · exact absurd ending (by decide)

theorem readListing_escaped (lines : List Text) :
    readListing (Text.joinLines '\n' (lines.map escapeLine)) = lines := by
  have unbroken : ∀ shown ∈ lines.map escapeLine, '\n' ∉ shown :=
    List.forall_mem_map.mpr fun line _ => newline_notMem_escapeLine line
  rw [readListing, Text.pieces_joinLines _ unbroken, List.map_map]
  exact List.map_id'' unescape_escapeLine lines

namespace Buffer

theorem numberFrom_map (f : Text → Text) (addr : Nat) (lines : List Text) :
    ((numberFrom addr lines).map fun (_, line) => f line) = lines.map f := by
  induction lines generalizing addr with
  | nil => rfl
  | cons line lines ih => rw [numberFrom, List.map_cons, ih, List.map_cons]

theorem linesIn_whole (b : Buffer) :
    b.linesIn (min 1 b.lineCount) b.lineCount = numberFrom 1 b.lines := by
  have first : max (min 1 b.lineCount) 1 = 1 := by omega
  have all : b.lines.take (b.lineCount + 1 - 1) = b.lines := List.take_length
  simp only [linesIn, first, Nat.sub_self, List.drop_zero, all]

end Buffer

namespace Editor

def output (e : Editor) (line : Text) (s : Surroundings) : Text :=
  Text.joinLines '\n' (printedLines ((e.execute line).exchanges s))

theorem output_eq {e : Editor} {line : Text} {s : Surroundings} {shown : List Text}
    (printed : ((e.execute line).run s).2.sink.printed = s.sink.printed ++ shown) :
    e.output line s = Text.joinLines '\n' shown := by
  rw [Dialogue.run_printed] at printed
  rw [output, List.append_cancel_left printed]

def listAll : Text := ['%', 'l']

variable {e e' : Editor} {s s' : Surroundings}

theorem resolve_listAll (b : Buffer) (current : Nat) (last : Option Regex) :
    resolve listAll b current last = .ok ⟨min 1 b.lineCount, b.lineCount, ['l'], current, none⟩ :=
  resolve_whole (Addresses.read_percent ['l']) rfl

theorem execute_listAll (filled : e.document.buffer.lines ≠ [])
    (takes : s.sink.Takes e.document.buffer.lineCount) :
    ((e.execute listAll).run s).1 = (e.moveTo e.document.buffer.lineCount, .proceed) ∧
      ((e.execute listAll).run s).2.sink.printed =
        s.sink.printed ++ e.document.buffer.lines.map escapeLine := by
  have resolution := resolve_listAll e.document.buffer e.document.cursor e.lastPattern
  have shown : ((e.document.buffer.linesIn (min 1 e.document.buffer.lineCount)
      e.document.buffer.lineCount).map fun (addr, line) => PrintMode.unambiguous.render addr line) =
      e.document.buffer.lines.map escapeLine := by
    rw [Buffer.linesIn_whole]
    exact Buffer.numberFrom_map escapeLine 1 e.document.buffer.lines
  have lines : e.document.buffer.isEmpty = false := Buffer.isEmpty_eq_false_iff.mpr filled
  have room : s.sink.Takes (e.document.buffer.lines.map escapeLine).length := by
    rw [List.length_map]
    exact takes
  let i : Invocation :=
    ⟨min 1 e.document.buffer.lineCount, e.document.buffer.lineCount, 'l', ['l']⟩
  have ran := @printRange_run e .unambiguous i s _ rfl lines shown room
  have tried := tryExecute_run_ok resolution rfl ran
  rw [execute, Dialogue.run_bind, tried]
  exact ⟨rfl, rfl⟩

/-- Where the output takes all lines, a listing of a document succeeds, and the lines can be read back
from the text it prints. So two documents with the same listing have the same lines. -/
theorem listing_unambiguous (filled : e.document.buffer.lines ≠ [])
    (filled' : e'.document.buffer.lines ≠ []) (takes : s.sink.Takes e.document.buffer.lineCount)
    (takes' : s'.sink.Takes e'.document.buffer.lineCount) :
    ((e.execute listAll).run s).1 = (e.moveTo e.document.buffer.lineCount, .proceed) ∧
      readListing (e.output listAll s) = e.document.buffer.lines ∧
      (e.output listAll s = e'.output listAll s' ↔
        e.document.buffer.lines = e'.document.buffer.lines) := by
  obtain ⟨done, printed⟩ := execute_listAll filled takes
  obtain ⟨-, printed'⟩ := execute_listAll filled' takes'
  have read : readListing (e.output listAll s) = e.document.buffer.lines := by
    rw [output_eq printed, readListing_escaped]
  have read' : readListing (e'.output listAll s') = e'.document.buffer.lines := by
    rw [output_eq printed', readListing_escaped]
  refine ⟨done, read, fun same => ?_, fun same => ?_⟩
  · rw [← read, same, read']
  · rw [output_eq printed, output_eq printed', same]

/-- Printed as they are, two lines and one with a newline in it look the same. Their listings do not,
and there is no room for more than these. -/
theorem listing_unambiguous_newline :
    let e : Editor := ofDocument (.ofBuffer ⟨[['a', '$'], ['\\', 'n']]⟩)
    let e' : Editor := ofDocument (.ofBuffer ⟨[['a', '$', '\n', '\\', 'n']]⟩)
    let s : Surroundings := ⟨⟨[], true⟩, ⟨[['p']], some 2⟩, .empty []⟩
    s.sink.Takes 2 ∧
      e.output listAll s = ['a', '$', '$', '\n', '\\', '\\', 'n', '$', '\n'] ∧
      readListing ['a', '$', '$', '\n', '\\', '\\', 'n', '$', '\n'] = [['a', '$'], ['\\', 'n']] ∧
      e.output listAll s ≠ e'.output listAll s := by
  intro e e' s
  have filled : e.document.buffer.lines ≠ [] := by simp [e, ofDocument, Document.ofBuffer]
  have filled' : e'.document.buffer.lines ≠ [] := by simp [e', ofDocument, Document.ofBuffer]
  have takes : s.sink.Takes 2 := by simp [s, Sink.Takes]
  have takes' : s.sink.Takes 1 := by simp [s, Sink.Takes]
  obtain ⟨-, read, same⟩ := listing_unambiguous filled filled' takes takes'
  have printed : e.output listAll s = ['a', '$', '$', '\n', '\\', '\\', 'n', '$', '\n'] := by
    rw [output_eq (execute_listAll filled takes).2]
    rfl
  rw [printed] at read
  refine ⟨takes, printed, read, fun alike => ?_⟩
  exact absurd (same.mp alike) (by simp [e, e', ofDocument, Document.ofBuffer])

end Editor

end LineEditor
