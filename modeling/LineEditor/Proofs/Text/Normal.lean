import LineEditor.Proofs.Files
import LineEditor.Proofs.Text.Decoding

/-! Reading a file and writing its lines gives it a normal form: it is UTF-8 and its last line is
ended like the others. A file in this form is written as it was read. -/
namespace LineEditor

namespace Text

section Ended

variable {α : Type} [DecidableEq α] {newline : α} {xs : List α}

def ended (newline : α) (xs : List α) : List α :=
  if xs = [] ∨ xs.getLast? = some newline then xs else xs ++ [newline]

theorem ended_unended (given : xs ≠ []) (none : newline ∉ xs) :
    ended newline xs = xs ++ [newline] := by
  have last : xs.getLast? ≠ some newline := fun last => none (List.mem_of_getLast? last)
  rw [ended, if_neg (not_or.mpr ⟨given, last⟩)]

theorem ended_append_newline (line rest : List α) :
    ended newline (line ++ newline :: rest) = line ++ newline :: ended newline rest := by
  have given : line ++ newline :: rest ≠ [] := by simp
  cases rest with
  | nil => simp [ended]
  | cons x rest =>
      have last : (line ++ newline :: x :: rest).getLast? = (x :: rest).getLast? := by
        simp [List.getLast?_cons]
      simp only [ended, last, given, List.cons_ne_nil, false_or]
      split
      · rfl
      · simp

theorem joinLines_pieces (xs : List α) : joinLines newline (pieces newline xs) = ended newline xs := by
  induction xs using @lines_induction _ newline with
  | unended xs none =>
      rw [pieces_unended none]
      by_cases empty : xs = []
      · simp [empty, ended]
      · rw [if_neg empty, ended_unended empty none, joinLines_cons, joinLines_nil]
  | ended line rest none ih =>
      rw [pieces_append_newline none, joinLines_cons, ih, ended_append_newline]

end Ended

def IsUtf8 (bytes : Bytes) : Prop := bytes.toByteArray.IsValidUTF8

theorem isUtf8_encode (t : Text) : IsUtf8 (encode t) := ⟨t, rfl⟩

theorem IsUtf8.exists_text {bytes : Bytes} (valid : IsUtf8 bytes) : ∃ t, encode t = bytes := by
  obtain ⟨t, same⟩ := valid
  exact ⟨t, (List.toByteArray_inj.mp same).symm⟩

theorem encodeChar_newline : String.utf8EncodeChar '\n' = [newlineByte] := by decide

theorem encode_eq_nil_iff {t : Text} : encode t = [] ↔ t = [] := by
  simp [encode, List.flatMap_eq_nil_iff, ← List.eq_nil_iff_forall_not_mem]

theorem getLast?_encode {t : Text} :
    (encode t).getLast? = some newlineByte ↔ t.getLast? = some '\n' := by
  rcases List.eq_nil_or_concat t with rfl | ⟨front, c, rfl⟩
  · simp
  · have last : (encode (front ++ [c])).getLast? = (String.utf8EncodeChar c).getLast? := by
      rw [encode_append, encode_cons, encode_nil, List.append_nil,
        List.getLast?_append, List.getLast?_eq_some_getLast String.utf8EncodeChar_ne_nil]
      rfl
    rw [List.concat_eq_append, last, List.getLast?_concat, Option.some.injEq]
    refine ⟨fun byte => newlineByte_mem_encodeChar (List.mem_of_getLast? byte), ?_⟩
    rintro rfl
    rw [encodeChar_newline, List.getLast?_singleton]

theorem encode_ended (t : Text) : encode (ended '\n' t) = ended newlineByte (encode t) := by
  simp only [ended, encode_eq_nil_iff, getLast?_encode]
  split
  · rfl
  · rw [encode_append, encode_cons, encode_nil, List.append_nil, encodeChar_newline]

end Text

theorem linesOfFile_eq_pieces (bytes : Text.Bytes) :
    linesOfFile bytes = Text.pieces '\n' (Text.decode bytes) :=
  (linesOfFile_eq_linesOfBytes bytes).trans (linesOfBytes_eq_pieces bytes)

theorem bytesOfLines_linesOfFile (bytes : Text.Bytes) :
    bytesOfLines (linesOfFile bytes) = Text.encode (Text.ended '\n' (Text.decode bytes)) := by
  rw [bytesOfLines, linesOfFile_eq_pieces, Text.joinLines_pieces]

theorem bytesOfLines_linesOfFile_of_isUtf8 {bytes : Text.Bytes} (valid : Text.IsUtf8 bytes) :
    bytesOfLines (linesOfFile bytes) = Text.ended newlineByte bytes := by
  obtain ⟨t, rfl⟩ := valid.exists_text
  rw [bytesOfLines_linesOfFile, Text.decode_encode, Text.encode_ended]

theorem linesOfFile_bytesOfLines_linesOfFile (bytes : Text.Bytes) :
    linesOfFile (bytesOfLines (linesOfFile bytes)) = linesOfFile bytes := by
  rw [linesOfFile_eq_linesOfBytes, linesOfBytes_bytesOfLines]
  rw [linesOfFile_eq_linesOfBytes]
  exact newline_notMem_linesOfBytes bytes

namespace FileTree

theorem exists_save {tree : FileTree} {name : Text} {path : FilePath}
    (free : tree.target name = .ok path) (lines : List Text) :
    ∃ saved, tree.save name lines = .ok (saved, (bytesOfLines lines).length) ∧
      saved.read name = .ok (bytesOfLines lines) ∧
      saved.load name = .ok (.ofBytes (bytesOfLines lines)) := by
  have saved : tree.save name lines =
      .ok (tree.put path (.file (bytesOfLines lines)), (bytesOfLines lines).length) := by
    rw [save_eq, free]
    rfl
  have written : tree.write name (bytesOfLines lines) =
      .ok (tree.put path (.file (bytesOfLines lines))) := by
    rw [write, free]
    rfl
  exact ⟨_, saved, read_write written, (load_save saved).1⟩

end FileTree

/-- Loading a file and saving its lines normalises it: UTF-8 stays as it is but for the end of the
last line, anything else becomes UTF-8, and doing it again changes nothing. The length that a save
counts line by line is that of the file, and loading the file tells the same length. -/
theorem file_normalised (bytes : Text.Bytes) :
    let lines := (Loaded.ofBytes bytes).lines
    let written := bytesOfLines lines
    (Text.IsUtf8 bytes →
      written = if bytes = [] ∨ bytes.getLast? = some newlineByte then bytes
        else bytes ++ [newlineByte]) ∧
    Text.IsUtf8 written ∧
    fileLength lines = written.length ∧
    Loaded.ofBytes written = ⟨lines, written.length⟩ ∧
    bytesOfLines (Loaded.ofBytes written).lines = written ∧
    ∀ (tree : FileTree) (name : Text) (path : FilePath), tree.target name = .ok path →
      ∃ saved, tree.save name lines = .ok (saved, written.length) ∧
        saved.read name = .ok written ∧ saved.load name = .ok ⟨lines, written.length⟩ := by
  intro lines written
  have again : linesOfFile written = lines := linesOfFile_bytesOfLines_linesOfFile bytes
  have loaded : Loaded.ofBytes written = ⟨lines, written.length⟩ := by rw [Loaded.ofBytes, again]
  have encoded : written = _ := bytesOfLines_linesOfFile bytes
  refine ⟨bytesOfLines_linesOfFile_of_isUtf8, ?_, (length_bytesOfLines lines).symm, loaded, ?_, ?_⟩
  · rw [encoded]
    exact Text.isUtf8_encode _
  · rw [loaded]
  · intro tree name path free
    obtain ⟨saved, work, read, load⟩ := FileTree.exists_save free lines
    exact ⟨saved, work, read, loaded ▸ load⟩

theorem file_normalised_unended :
    let bytes : Text.Bytes := [0xc3, 0xa9, 10, 10, 0x78]
    let broken : Text.Bytes := [0xe2, 0x82, 10]
    let tree : FileTree := .empty []
    Text.IsUtf8 bytes ∧ bytesOfLines (linesOfFile bytes) = bytes ++ [newlineByte] ∧
      Loaded.ofBytes (bytes ++ [newlineByte]) = ⟨linesOfFile bytes, 6⟩ ∧
      bytesOfLines (linesOfFile broken) = [0xef, 0xbf, 0xbd, 10] ∧
      Text.IsUtf8 [0xef, 0xbf, 0xbd, 10] ∧
      tree.target ['f'] = .ok [['f']] ∧
      ∃ saved, tree.save ['f'] (linesOfFile broken) = .ok (saved, 4) ∧
        saved.load ['f'] = .ok ⟨linesOfFile broken, 4⟩ := by
  intro bytes broken tree
  have valid : Text.IsUtf8 bytes := ⟨['é', '\n', '\n', 'x'], by decide⟩
  have normal : bytesOfLines (linesOfFile broken) = [0xef, 0xbf, 0xbd, 10] := by decide
  have free : tree.target ['f'] = .ok [['f']] := rfl
  obtain ⟨kept, -, -, loaded, -⟩ := file_normalised bytes
  obtain ⟨-, encoded, -, -, -, filed⟩ := file_normalised broken
  obtain ⟨saved, work, -, load⟩ := filed tree ['f'] [['f']] free
  have whole : bytesOfLines (linesOfFile bytes) = bytes ++ [newlineByte] := kept valid
  refine ⟨valid, whole, ?_, normal, ?_, free, saved, ?_, ?_⟩
  · rw [← whole]
    exact loaded
  · rw [← normal]
    exact encoded
  · exact work
  · exact load

end LineEditor
