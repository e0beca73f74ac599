import LineEditor.Files.Tree
import LineEditor.Text.Lines

/-! A stream that is read line by line and a file that is cut at its newlines have the same lines: the
pieces between the newlines, without an empty one at the end. -/
namespace LineEditor

namespace Text

variable {α : Type} {newline : α} {xs line : List α}

/-- The pieces between the newlines. If the last one is empty it is left out. -/
def pieces [DecidableEq α] (newline : α) (xs : List α) : List (List α) :=
  let all := xs.splitOn newline
  if all.getLast? = some [] then all.dropLast else all

theorem lines_induction {motive : List α → Prop}
    (unended : ∀ xs, newline ∉ xs → motive xs)
    (ended : ∀ line rest, newline ∉ line → motive rest → motive (line ++ newline :: rest))
    (xs : List α) : motive xs := by
  induction length : xs.length using Nat.strongRecOn generalizing xs with
  | ind n ih =>
      by_cases member : newline ∈ xs
      · obtain ⟨line, rest, rfl, notIn⟩ := List.eq_append_cons_of_mem member
        simp only [List.length_append, List.length_cons] at length
        exact ended line rest notIn (ih rest.length (by omega) rest rfl)
      · exact unended xs member

theorem pieces_unended [DecidableEq α] (none : newline ∉ xs) :
    pieces newline xs = if xs = [] then [] else [xs] := by
  rw [pieces, List.splitOn_eq_singleton none, List.getLast?_singleton]
  by_cases empty : xs = [] <;> simp [empty]

theorem pieces_append_newline [DecidableEq α] (none : newline ∉ line) (rest : List α) :
    pieces newline (line ++ newline :: rest) = line :: pieces newline rest := by
  have split : (line ++ newline :: rest).splitOn newline = line :: rest.splitOn newline :=
    List.splitOnP_append_cons_of_forall_mem
      (fun x member => beq_false_of_ne (ne_of_mem_of_not_mem member none)) newline
      (beq_self_eq_true newline) rest
  obtain ⟨first, more, behind⟩ := List.exists_cons_of_ne_nil (rest.splitOn_ne_nil newline)
  simp only [pieces, split, behind, List.getLast?_cons_cons, List.dropLast_cons_cons]
  split <;> rfl

theorem pieces_joinLines [DecidableEq α] (lines : List (List α))
    (none : ∀ line ∈ lines, newline ∉ line) : pieces newline (joinLines newline lines) = lines := by
  induction lines with
  | nil => rfl
  | cons line lines ih =>
      obtain ⟨first, rest⟩ := List.forall_mem_cons.mp none
      rw [joinLines_cons, pieces_append_newline first, ih rest]

theorem newline_notMem_of_mem_pieces [DecidableEq α] (xs : List α) :
    ∀ line ∈ pieces newline xs, newline ∉ line := by
  induction xs using @lines_induction _ newline with
  | unended xs none =>
      rw [pieces_unended none]
      split
      · exact List.forall_mem_nil _
      · exact List.forall_mem_singleton.mpr none
  | ended line rest none ih =>
      rw [pieces_append_newline none]
      exact List.forall_mem_cons.mpr ⟨none, ih⟩

theorem length_pieces_le [DecidableEq α] (xs : List α) :
    (pieces newline xs).length ≤ xs.length := by
  induction xs using @lines_induction _ newline with
  | unended xs none =>
      rw [pieces_unended none]
      cases xs <;> simp
  | ended line rest none ih =>
      rw [pieces_append_newline none, List.length_cons, List.length_append, List.length_cons]
      omega

end Text

section

variable {bytes line rest : Text.Bytes}

theorem takeLine_unended (none : newlineByte ∉ bytes) : takeLine bytes = (bytes, []) := by
  induction bytes with
  | nil => rfl
  | cons b bytes ih =>
      simp only [List.mem_cons, not_or] at none
      rw [takeLine, if_neg (Ne.symm none.1), ih none.2]

theorem takeLine_ended (none : newlineByte ∉ line) (rest : Text.Bytes) :
    takeLine (line ++ newlineByte :: rest) = (line ++ [newlineByte], rest) := by
  induction line with
  | nil => rfl
  | cons b line ih =>
      simp only [List.mem_cons, not_or] at none
      rw [List.cons_append, takeLine, if_neg (Ne.symm none.1), ih none.2]
      rfl

theorem readLine?_nil : readLine? [] = none := rfl

theorem readLine?_unended (given : bytes ≠ []) (none : newlineByte ∉ bytes) :
    readLine? bytes = some (Text.decode bytes, []) := by
  have last : ¬ bytes.getLast? = some newlineByte :=
    fun last => none (List.mem_of_getLast? last)
  simp [readLine?, takeLine_unended none, given, withoutNewline, last]

theorem readLine?_ended (none : newlineByte ∉ line) (rest : Text.Bytes) :
    readLine? (line ++ newlineByte :: rest) = some (Text.decode line, rest) := by
  simp [readLine?, takeLine_ended none, withoutNewline]

inductive Drains : Text.Bytes → List Text → Prop where
  | ended {bytes : Text.Bytes} (none : readLine? bytes = none) : Drains bytes []
  | line {bytes rest : Text.Bytes} {line : Text} {lines : List Text}
      (read : readLine? bytes = some (line, rest)) (more : Drains rest lines) :
      Drains bytes (line :: lines)

theorem drains_pieces (bytes : Text.Bytes) :
    Drains bytes ((Text.pieces newlineByte bytes).map Text.decode) := by
  induction bytes using @Text.lines_induction _ newlineByte with
  | unended bytes none =>
      rw [Text.pieces_unended none]
      split
      · next empty =>
        subst empty
        exact .ended readLine?_nil
      · next given => exact .line (readLine?_unended given none) (.ended readLine?_nil)
  | ended line rest none ih =>
      rw [Text.pieces_append_newline none, List.map_cons]
      exact .line (readLine?_ended none rest) ih

theorem Drains.readLines_eq {lines : List Text} (drains : Drains bytes lines) {count : Nat}
    (enough : lines.length ≤ count) : readLines count bytes = lines := by
  induction drains generalizing count with
  | ended none =>
      cases count with
      | zero => rfl
      | succ count => rw [readLines, none]
  | line read more ih =>
      obtain ⟨count, rfl⟩ := Nat.exists_eq_add_of_le' (Nat.le_trans (Nat.succ_pos _) enough)
      rw [readLines, read]
      dsimp only
      rw [ih (Nat.le_of_succ_le_succ enough)]

theorem linesOfBytes_eq (bytes : Text.Bytes) :
    linesOfBytes bytes = (Text.pieces newlineByte bytes).map Text.decode := by
  refine (drains_pieces bytes).readLines_eq ?_
  rw [List.length_map]
  exact Text.length_pieces_le bytes

theorem drains_iff {lines : List Text} : Drains bytes lines ↔ lines = linesOfBytes bytes := by
  have all : Drains bytes (linesOfBytes bytes) := by
    rw [linesOfBytes_eq]
    exact drains_pieces bytes
  refine ⟨fun drains => ?_, fun same => same ▸ all⟩
  rw [← drains.readLines_eq (Nat.le_max_left _ (linesOfBytes bytes).length),
    all.readLines_eq (Nat.le_max_right lines.length _)]

theorem finishedLines_unended (none : newlineByte ∉ bytes) : finishedLines bytes = [] := by
  have other : ∀ b ∈ bytes.reverse, decide (b ≠ newlineByte) = true := fun b member =>
    decide_eq_true (ne_of_mem_of_not_mem (List.mem_reverse.mp member) none)
  have dropped := @List.dropWhile_append_of_pos _ _ bytes.reverse [] other
  rw [List.append_nil, List.dropWhile_nil] at dropped
  rw [finishedLines, dropped, List.reverse_nil]

theorem finishedLines_ended (line rest : Text.Bytes) :
    finishedLines (line ++ newlineByte :: rest) = line ++ newlineByte :: finishedLines rest := by
  rw [finishedLines, List.reverse_append, List.reverse_cons, List.append_assoc,
    List.singleton_append, List.dropWhile_append]
  split
  · next empty =>
    rw [finishedLines, List.isEmpty_iff.mp empty]
    simp
  · simp [finishedLines]

theorem linesOfBytes_finishedLines (bytes : Text.Bytes) :
    linesOfBytes (finishedLines bytes) = (linesOfBytes bytes).take (bytes.count newlineByte) := by
  simp only [linesOfBytes_eq]
  induction bytes using @Text.lines_induction _ newlineByte with
  | unended bytes none =>
      rw [finishedLines_unended none, List.count_eq_zero.mpr none, List.take_zero]
      rfl
  | ended line rest none ih =>
      have count : (line ++ newlineByte :: rest).count newlineByte =
          rest.count newlineByte + 1 := by
        rw [List.count_append, List.count_eq_zero.mpr none, Nat.zero_add, List.count_cons_self]
      rw [finishedLines_ended, Text.pieces_append_newline none, Text.pieces_append_newline none,
        count, List.map_cons, List.map_cons, List.take_succ_cons, ih]

theorem newlinesFrom_unended (none : newlineByte ∉ bytes) (position : Nat) :
    newlinesFrom position bytes = [] := by
  induction bytes generalizing position with
  | nil => rfl
  | cons b bytes ih =>
      simp only [List.mem_cons, not_or] at none
      rw [newlinesFrom, if_neg (Ne.symm none.1), ih none.2]

theorem newlinesFrom_ended (none : newlineByte ∉ line) (rest : Text.Bytes) (position : Nat) :
    newlinesFrom position (line ++ newlineByte :: rest) =
      (position + line.length) :: newlinesFrom (position + line.length + 1) rest := by
  induction line generalizing position with
  | nil => rfl
  | cons b line ih =>
      simp only [List.mem_cons, not_or] at none
      have onward : position + 1 + line.length = position + (line.length + 1) := by omega
      rw [List.cons_append, newlinesFrom, if_neg (Ne.symm none.1), ih none.2, List.length_cons,
        onward]

theorem cutAt_newlinesFrom (front bytes : Text.Bytes) :
    cutAt (front ++ bytes) front.length (newlinesFrom front.length bytes) =
      Text.pieces newlineByte bytes := by
  induction bytes using @Text.lines_induction _ newlineByte generalizing front with
  | unended bytes none =>
      rw [newlinesFrom_unended none, cutAt, Text.pieces_unended none, List.drop_left]
      cases bytes <;> simp
  | ended line rest none ih =>
      have behind := ih (front ++ line ++ [newlineByte])
      have start : (front ++ line ++ [newlineByte]).length = front.length + line.length + 1 := by
        simp [Nat.add_assoc]
      rw [start, List.append_assoc, List.append_assoc, List.singleton_append] at behind
      rw [newlinesFrom_ended none, cutAt, List.drop_left, Nat.add_sub_cancel_left, List.take_left,
        behind, Text.pieces_append_newline none]

theorem linesOfFile_eq (bytes : Text.Bytes) :
    linesOfFile bytes = (Text.pieces newlineByte bytes).map Text.decode :=
  congrArg (List.map Text.decode) (cutAt_newlinesFrom [] bytes)

theorem linesOfFile_eq_linesOfBytes (bytes : Text.Bytes) :
    linesOfFile bytes = linesOfBytes bytes := by
  rw [linesOfFile_eq, linesOfBytes_eq]

end

end LineEditor
