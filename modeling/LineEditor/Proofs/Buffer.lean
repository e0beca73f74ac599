import LineEditor.Buffer

/-! Lines that are taken out can be put back, and lines that are put in can be taken out again. Both
ways the document is cut at the same place, whether the address is that of the line in front or of the
line behind, and also if there is no line on one of the sides. -/
namespace LineEditor.Buffer

variable {b : Buffer} {start stop addr n : Nat} {new : List Text}

theorem isEmpty_eq_false_iff : b.isEmpty = false ↔ b.lines ≠ [] := by
  simp [isEmpty]

theorem countBefore_eq (first : addr = 0 → b.lineCount = 0) (last : addr ≤ b.lineCount + 1) :
    b.countBefore addr = addr - 1 := by
  unfold countBefore
  split <;> omega

theorem spliceAt_cut (lines new : List Text) {n m : Nat} (h : n ≤ lines.length) :
    spliceAt ⟨lines.take n ++ lines.drop m⟩ n new = ⟨lines.take n ++ new ++ lines.drop m⟩ := by
  have front : (lines.take n).length = n := List.length_take_of_le h
  have taken : (lines.take n ++ lines.drop m).take n = lines.take n :=
    List.take_left' front
  have dropped : (lines.take n ++ lines.drop m).drop n = lines.drop m :=
    List.drop_left' front
  simp only [spliceAt, taken, dropped]

def slice (b : Buffer) (start stop : Nat) : List Text :=
  (b.lines.drop (start - 1)).take (stop + 1 - start)

def without (b : Buffer) (start stop : Nat) : Buffer :=
  ⟨b.lines.take (start - 1) ++ b.lines.drop stop⟩

theorem getLine_succ (b : Buffer) (n : Nat) : b.getLine (n + 1) = b.lines[n]? := rfl

theorem getElem?_slice (first : 1 ≤ start) (ordered : start ≤ stop) {i : Nat}
    (inside : i < stop - start + 1) : (b.slice start stop)[i]? = b.getLine (start + i) := by
  obtain ⟨n, rfl⟩ := Nat.exists_eq_add_of_le' first
  have within : i < stop + 1 - (n + 1) := by omega
  have address : n + 1 + i = n + i + 1 := by omega
  rw [slice, List.getElem?_take_of_lt within, List.getElem?_drop, address, getLine_succ]
  rfl

section Range

variable (first : 1 ≤ start) (ordered : start ≤ stop) (last : stop ≤ b.lineCount)

include first ordered last

theorem delete_eq_without : b.delete start stop = .ok (b.without start stop, b.slice start stop) :=
  if_pos ⟨first, ordered, last⟩

theorem length_slice : (b.slice start stop).length = stop - start + 1 := by
  unfold lineCount at last
  rw [slice, List.length_take, List.length_drop]
  omega

theorem lineCount_without :
    (b.without start stop).lineCount = b.lineCount - (stop - start + 1) := by
  unfold lineCount at last ⊢
  rw [without, List.length_append, List.length_take, List.length_drop]
  omega

theorem spliceAt_without : (b.without start stop).spliceAt (start - 1) (b.slice start stop) = b := by
  have front : start - 1 ≤ b.lines.length := by
    unfold lineCount at last
    omega
  have behind : b.lines.drop stop = (b.lines.drop (start - 1)).drop (stop + 1 - start) := by
    have place : start - 1 + (stop + 1 - start) = stop := by omega
    rw [List.drop_drop, place]
  have whole : b.lines.take (start - 1) ++ b.slice start stop ++ b.lines.drop stop = b.lines := by
    rw [slice, behind, List.append_assoc, List.take_append_drop, List.take_append_drop]
  rw [without, spliceAt_cut _ _ front, whole]

theorem reported_slice :
    (⟨start - 1 + 1, start - 1 + 1 + (b.slice start stop).length⟩ : AddressRange) =
      ⟨start, stop + 1⟩ := by
  rw [length_slice first ordered last, AddressRange.mk.injEq]
  omega

theorem insertAfter_without :
    (b.without start stop).insertAfter (start - 1) (b.slice start stop) =
      .ok (b, ⟨start, stop + 1⟩) := by
  have reached : start - 1 ≤ (b.without start stop).lineCount := by
    rw [lineCount_without first ordered last]
    omega
  rw [insertAfter, if_pos reached, spliceAt_without first ordered last,
    reported_slice first ordered last]

theorem insertBefore_without :
    (b.without start stop).insertBefore start (b.slice start stop) = (b, ⟨start, stop + 1⟩) := by
  have place : (b.without start stop).countBefore start = start - 1 := by
    refine countBefore_eq (by omega) ?_
    rw [lineCount_without first ordered last]
    omega
  simp only [insertBefore, place, spliceAt_without first ordered last,
    reported_slice first ordered last]

end Range

section New

variable (front : n ≤ b.lineCount)

include front

theorem getLine_spliceAt {i : Nat} (inside : i < new.length) :
    (b.spliceAt n new).getLine (n + 1 + i) = new[i]? := by
  have length : (b.lines.take n).length = n := List.length_take_of_le front
  have address : n + 1 + i = n + i + 1 := by omega
  rw [address, getLine_succ, spliceAt, List.append_assoc,
    List.getElem?_append_right (by omega), length, Nat.add_sub_cancel_left,
    List.getElem?_append_left inside]

theorem delete_spliceAt (filled : new ≠ []) :
    (b.spliceAt n new).delete (n + 1) (n + new.length) = .ok (b, new) := by
  have length : (b.lines.take n).length = n := List.length_take_of_le front
  have both : (b.lines.take n ++ new).length = n + new.length := by
    rw [List.length_append, length]
  have some : 0 < new.length := List.length_pos_iff.mpr filled
  have last : n + new.length ≤ (b.spliceAt n new).lineCount := by
    rw [lineCount_spliceAt]
    omega
  have count : n + new.length + 1 - (n + 1) = new.length := by omega
  have rest : (b.spliceAt n new).without (n + 1) (n + new.length) = b := by
    simp only [without, spliceAt, Nat.add_sub_cancel, List.drop_left' both]
    rw [List.append_assoc, List.take_left' length, List.take_append_drop]
  have removed : (b.spliceAt n new).slice (n + 1) (n + new.length) = new := by
    simp only [slice, spliceAt, Nat.add_sub_cancel, count]
    rw [List.append_assoc, List.drop_left' length, List.take_left]
  rw [delete_eq_without (by omega) (by omega) last, rest, removed]

end New

/-- An insertion has reported where its lines stand: each is found at its address, and taking the
range out hands them back and leaves the old lines. -/
structure Inserted (b : Buffer) (new : List Text) (after : Buffer) (range : AddressRange) : Prop where
  count : range.stop = range.first + new.length
  found : ∀ i, i < new.length → after.getLine (range.first + i) = new[i]?
  deleted : after.delete range.first (range.stop - 1) = .ok (b, new)

theorem inserted_spliceAt (front : n ≤ b.lineCount) (filled : new ≠ []) :
    b.Inserted new (b.spliceAt n new) ⟨n + 1, n + 1 + new.length⟩ where
  count := rfl
  found _ inside := getLine_spliceAt front inside
  deleted := by
    have last : n + 1 + new.length - 1 = n + new.length := by omega
    rw [last]
    exact delete_spliceAt front filled

theorem insertAfter_pred (first : 1 ≤ addr) (last : addr ≤ b.lineCount) (new : List Text) :
    b.insertAfter (addr - 1) new = .ok (b.insertBefore addr new) := by
  have reached : addr - 1 ≤ b.lineCount := by omega
  have place : b.countBefore addr = addr - 1 := countBefore_eq (by omega) (by omega)
  simp only [insertAfter, if_pos reached, insertBefore, place]

def answer {α : Type} (b : Buffer) : Except EditorError (Buffer × α) → Except EditorError α × Buffer
  | .ok (after, a) => (.ok a, after)
  | .error error => (.error error, b)

/-- Deleting and inserting undo each other, at either end of the document and for the whole of it, and
an edit outside the document is refused. -/
theorem edits_undo (b : Buffer) :
    (∀ start stop, 1 ≤ start → start ≤ stop → stop ≤ b.lineCount →
      ∃ rest removed, b.delete start stop = .ok (rest, removed) ∧
        removed.length = stop - start + 1 ∧
        (∀ i, i < removed.length → removed[i]? = b.getLine (start + i)) ∧
        rest.lineCount = b.lineCount - (stop - start + 1) ∧
        rest.insertBefore start removed = (b, ⟨start, stop + 1⟩) ∧
        rest.insertAfter (start - 1) removed = .ok (b, ⟨start, stop + 1⟩)) ∧
    (∀ new, new ≠ [] →
      (∀ addr, addr ≤ b.lineCount →
        ∃ after range, b.insertAfter addr new = .ok (after, range) ∧ b.Inserted new after range) ∧
      ∀ addr, b.Inserted new (b.insertBefore addr new).1 (b.insertBefore addr new).2) ∧
    (∀ addr new, 1 ≤ addr → addr ≤ b.lineCount →
      b.insertAfter (addr - 1) new = .ok (b.insertBefore addr new)) ∧
    (∀ start stop, start = 0 ∨ stop < start ∨ b.lineCount < stop →
      b.answer (b.delete start stop) = (.error .invalidAddress, b)) ∧
    (∀ addr new, b.lineCount < addr →
      b.answer (b.insertAfter addr new) = (.error .invalidAddress, b)) ∧
    (∀ addr line, addr = 0 ∨ b.lineCount < addr →
      b.answer ((b.replaceLine addr line).map (·, ())) = (.error .invalidAddress, b)) := by
  refine ⟨fun start stop first ordered last => ?_, fun new filled => ⟨fun addr front => ?_,
    fun addr => inserted_spliceAt (b.countBefore_le addr) filled⟩,
    fun addr new first last => insertAfter_pred first last new, fun start stop outside => ?_,
    fun addr new outside => ?_, fun addr line outside => ?_⟩
  · have count := length_slice first ordered last
    exact ⟨_, _, delete_eq_without first ordered last, count,
      fun i inside => getElem?_slice first ordered (count ▸ inside),
      lineCount_without first ordered last, insertBefore_without first ordered last,
      insertAfter_without first ordered last⟩
  · exact ⟨_, _, if_pos front, inserted_spliceAt front filled⟩
  · rw [delete, if_neg (by omega)]
    rfl
  · rw [insertAfter, if_neg (by omega)]
    rfl
  · rw [replaceLine, if_neg (by omega)]
    rfl

theorem edits_undo_tail :
    let b : Buffer := ⟨[['a'], ['b'], ['c']]⟩
    b.delete 2 3 = .ok (⟨[['a']]⟩, [['b'], ['c']]) ∧
      insertBefore ⟨[['a']]⟩ 2 [['b'], ['c']] = (b, ⟨2, 4⟩) ∧
      insertAfter ⟨[['a']]⟩ 1 [['b'], ['c']] = .ok (b, ⟨2, 4⟩) ∧
      b.insertBefore 9 [['d']] = (⟨[['a'], ['b'], ['c'], ['d']]⟩, ⟨4, 5⟩) ∧
      delete ⟨[['a'], ['b'], ['c'], ['d']]⟩ 4 4 = .ok (b, [['d']]) ∧
      b.answer (b.insertAfter 4 [['d']]) = (.error .invalidAddress, b) := by
  intro b
  obtain ⟨out, into, -, -, refused, -⟩ := b.edits_undo
  obtain ⟨rest, removed, deleted, -, -, -, before, after⟩ := out 2 3 (by decide) (by decide) (by decide)
  obtain ⟨rfl, rfl⟩ : rest = ⟨[['a']]⟩ ∧ removed = [['b'], ['c']] := by
    cases deleted
    exact ⟨rfl, rfl⟩
  obtain ⟨-, anywhere⟩ := into [['d']] (List.cons_ne_nil _ _)
  exact ⟨deleted, before, after, rfl, (anywhere 9).deleted, refused 4 [['d']] (by decide)⟩

end LineEditor.Buffer
