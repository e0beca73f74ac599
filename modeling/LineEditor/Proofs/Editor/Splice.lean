import LineEditor.Surroundings
import LineEditor.Proofs.Buffer
import LineEditor.Proofs.Editor.Ending

/-! Editing commands put typed lines into the document and take lines out of it. What they leave is
said by cutting the old lines at two places; it is the same for ranges at either end of the document
and for the whole of it. -/
namespace LineEditor

theorem clampAddress_of_holds {b : Buffer} {addr : Nat} (h : b.holds addr = true) :
    clampAddress addr b.lineCount = addr := by
  rw [Buffer.holds_iff] at h
  unfold clampAddress
  split <;> omega

theorem clampAddress_eq_min {addr : Nat} (h : 1 ≤ addr) (count : Nat) :
    clampAddress addr count = min addr count := by
  unfold clampAddress
  split <;> omega

theorem Document.afterInsert_eq (d : Document) (addr n : Nat) (new : List Text) :
    d.afterInsert addr (d.buffer.spliceAt n new) ⟨n + 1, n + 1 + new.length⟩ =
      { d with
        buffer := d.buffer.spliceAt n new
        cursor := if new = [] then clampAddress addr d.buffer.lineCount else n + new.length
        modified := d.modified || !new.isEmpty } := by
  cases new with
  | nil => simp [afterInsert, setClamped]
  | cons line lines =>
      have last : n + 1 + (line :: lines).length - 1 = n + (line :: lines).length := by omega
      unfold afterInsert
      rw [if_neg (by simp), if_neg (by simp), last]
      simp

inductive Edit where
  | append
  | insert
  | change
  | delete
  deriving DecidableEq, Repr

namespace Edit

def letter : Edit → Char
  | append => 'a'
  | insert => 'i'
  | change => 'c'
  | delete => 'd'

def removes : Edit → Bool
  | append | insert => false
  | change | delete => true

def lines (old block : List Text) (start stop : Nat) : Edit → List Text
  | append => old.take stop ++ block ++ old.drop stop
  | insert => old.take (stop - 1) ++ block ++ old.drop (stop - 1)
  | change | delete => old.take (start - 1) ++ block ++ old.drop stop

/-- The address of the last new line. Without new lines it is that of the range, as far as there are
lines left. -/
def cursor (old block : List Text) (start stop : Nat) : Edit → Nat
  | append => if block = [] then stop else stop + block.length
  | insert => if block = [] then stop else stop - 1 + block.length
  | change | delete =>
      if block = [] then min start (old.take (start - 1) ++ old.drop stop).length
      else start - 1 + block.length

def apply (edit : Edit) (e : Editor) (block : List Text) (start stop : Nat) : Editor :=
  e.withDocument
    { buffer := ⟨edit.lines e.document.buffer.lines block start stop⟩
      cursor := edit.cursor e.document.buffer.lines block start stop
      modified := e.document.modified || edit.removes || !block.isEmpty
      filename := e.document.filename }

/-- The lines that are typed for a command; for `d` there are none, and nothing is read. -/
def Receives (edit : Edit) (source : Source) (block : List Text) (rest : Source) : Prop :=
  if edit = delete then block = [] ∧ rest = source else source.readBlock = (some block, rest)

instance (edit : Edit) (source : Source) (block : List Text) (rest : Source) :
    Decidable (edit.Receives source block rest) := by
  unfold Receives
  infer_instance

end Edit

namespace Document

theorem insert_after_eq {d : Document} {addr : Nat} (inside : d.buffer.holds addr = true)
    (start : Nat) (block : List Text) :
    d.insert .after addr block = .ok
      { d with
        buffer := ⟨Edit.append.lines d.buffer.lines block start addr⟩
        cursor := Edit.append.cursor d.buffer.lines block start addr
        modified := d.modified || !block.isEmpty } := by
  have reached : addr ≤ d.buffer.lineCount := ((d.buffer.holds_iff addr).mp inside).1
  unfold insert Buffer.insertAfter
  simp only [reached, if_true, ok_bind, afterInsert_eq, clampAddress_of_holds inside]
  rfl

theorem insert_before_at {d : Document} {addr n : Nat} (place : d.buffer.countBefore addr = n)
    (block : List Text) :
    d.insert .before addr block = .ok
      { d with
        buffer := d.buffer.spliceAt n block
        cursor := if block = [] then clampAddress addr d.buffer.lineCount else n + block.length
        modified := d.modified || !block.isEmpty } := by
  unfold insert Buffer.insertBefore
  simp only [place, afterInsert_eq]

theorem insert_before_eq {d : Document} {addr : Nat} (inside : d.buffer.holds addr = true)
    (start : Nat) (block : List Text) :
    d.insert .before addr block = .ok
      { d with
        buffer := ⟨Edit.insert.lines d.buffer.lines block start addr⟩
        cursor := Edit.insert.cursor d.buffer.lines block start addr
        modified := d.modified || !block.isEmpty } := by
  have reached := (d.buffer.holds_iff addr).mp inside
  have place : d.buffer.countBefore addr = addr - 1 :=
    Buffer.countBefore_eq (by omega) (by omega)
  rw [insert_before_at place, clampAddress_of_holds inside]
  rfl

theorem delete_eq {d : Document} {start stop : Nat} (first : 1 ≤ start) (ordered : start ≤ stop)
    (last : stop ≤ d.buffer.lineCount) :
    d.delete start stop = .ok
      ({ d with
        buffer := ⟨d.buffer.lines.take (start - 1) ++ d.buffer.lines.drop stop⟩
        cursor := Edit.delete.cursor d.buffer.lines [] start stop
        modified := true }, (d.buffer.lines.drop (start - 1)).take (stop + 1 - start)) := by
  unfold delete Buffer.delete
  simp only [first, ordered, last, and_self, if_true, ok_bind, setClamped,
    clampAddress_eq_min first]
  rfl

theorem change_eq {d : Document} {start stop : Nat} (first : 1 ≤ start) (ordered : start ≤ stop)
    (last : stop ≤ d.buffer.lineCount) (block : List Text) :
    (do
      let (between, _) ← d.delete start stop
      between.insert .before start block) = .ok
        { d with
          buffer := ⟨Edit.change.lines d.buffer.lines block start stop⟩
          cursor := Edit.change.cursor d.buffer.lines block start stop
          modified := true } := by
  have front : start - 1 ≤ d.buffer.lines.length := by
    unfold Buffer.lineCount at last
    omega
  have place : Buffer.countBefore ⟨d.buffer.lines.take (start - 1) ++ d.buffer.lines.drop stop⟩ start =
      start - 1 := by
    refine Buffer.countBefore_eq (by omega) ?_
    simp only [Buffer.lineCount, List.length_append, List.length_take_of_le front]
    omega
  rw [delete_eq first ordered last, ok_bind]
  dsimp only
  rw [insert_before_at place, Buffer.spliceAt_cut _ _ front, clampAddress_eq_min first]
  rfl

end Document

namespace Editor

variable {e : Editor} {i : Invocation} {s : Surroundings} {rest : Source} {block : List Text}

theorem tryExecute_eq {line : Text} {r : Resolution} {verb : Verb}
    (resolution : resolve line e.document.buffer e.document.cursor e.lastPattern = .ok r)
    (known : Verb.ofChar? r.verb = some verb) :
    e.tryExecute line = ((e.resolved r).run r.invocation verb).map e.settle := by
  unfold tryExecute
  rw [resolution]
  dsimp only
  rw [known]

theorem tryExecute_run_ok {line : Text} {r : Resolution} {verb : Verb} {after : Editor}
    {outcome : Outcome} {left : Surroundings}
    (resolution : resolve line e.document.buffer e.document.cursor e.lastPattern = .ok r)
    (known : Verb.ofChar? r.verb = some verb)
    (ran : ((e.resolved r).run r.invocation verb).run s = (⟨after, .ok outcome⟩, left)) :
    (e.tryExecute line).run s = (⟨after, .ok outcome⟩, left) := by
  rw [tryExecute_eq resolution known, Dialogue.run_map, ran]
  rfl

theorem insertBlock_run {position : InsertPosition} {d : Document} (bare : i.isBare = true)
    (received : s.source.readBlock = (some block, rest))
    (work : e.document.insert position i.stop block = .ok d) :
    (e.insertBlock position i).run s =
      (⟨e.withDocument d, .ok .proceed⟩, { s with source := rest }) := by
  simp only [insertBlock, Editor.bare, bare, if_true, Dialogue.run, received, work, adopt, proceed]

theorem changeRange_run {d : Document} (bare : i.isBare = true)
    (lines : e.document.buffer.isEmpty = false)
    (received : s.source.readBlock = (some block, rest))
    (work : (do
      let (between, _) ← e.document.delete i.start i.stop
      between.insert .before i.start block) = .ok d) :
    (e.changeRange i).run s = (⟨e.withDocument d, .ok .proceed⟩, { s with source := rest }) := by
  simp only [changeRange, Editor.bare, bare, onLines, lines, Bool.false_eq_true, if_true, if_false,
    Dialogue.run, received, work, adopt, proceed]

theorem deleteRange_run {d : Document} {removed : List Text} (s : Surroundings)
    (bare : i.isBare = true) (lines : e.document.buffer.isEmpty = false)
    (work : e.document.delete i.start i.stop = .ok (d, removed)) :
    (e.deleteRange i).run s = (⟨e.withDocument d, .ok .proceed⟩, s) := by
  simp only [deleteRange, Editor.bare, bare, onLines, lines, Bool.false_eq_true, if_true, if_false,
    work, Except.map, adopt, proceed, Dialogue.run]

/-- An editing command succeeds once its lines are typed, and leaves the lines, the current line and
the mark of changes that an edit leaves. -/
theorem tryExecute_splices {line : Text} {r : Resolution} {edit : Edit}
    (resolution : resolve line e.document.buffer e.document.cursor e.lastPattern = .ok r)
    (inside : e.document.CursorInside) (letter : r.verb = edit.letter)
    (bare : r.invocation.isBare = true)
    (lines : edit.removes = true → e.document.buffer.lines ≠ [])
    (received : edit.Receives s.source block rest) :
    (e.tryExecute line).run s =
      (⟨edit.apply (e.resolved r) block r.start r.stop, .ok .proceed⟩,
        { s with source := rest }) := by
  have range : r.Inside e.document.buffer :=
    (resolve_meets ..).value r resolution (e.document.cursorInside_iff.mp inside)
  have last : r.stop ≤ e.document.buffer.lineCount :=
    ((e.document.buffer.holds_iff _).mp range.stop).1
  have removing (h : edit.removes = true) :
      1 ≤ r.start ∧ e.document.buffer.isEmpty = false := by
    have filled : e.document.buffer.lineCount ≠ 0 :=
      fun none => lines h (List.length_eq_zero_iff.mp none)
    have first := ((e.document.buffer.holds_iff _).mp range.start).2
    exact ⟨by omega, Buffer.isEmpty_eq_false_iff.mpr (lines h)⟩
  cases edit with
  | append =>
      have known : Verb.ofChar? r.verb = some (.insert .after) := by rw [letter]; rfl
      have work := @Document.insert_after_eq (e.resolved r).document _ range.stop r.start block
      have ran := tryExecute_run_ok resolution known (insertBlock_run bare received work)
      simpa only [Edit.apply, Edit.removes, Bool.or_false] using ran
  | insert =>
      have known : Verb.ofChar? r.verb = some (.insert .before) := by rw [letter]; rfl
      have work := @Document.insert_before_eq (e.resolved r).document _ range.stop r.start block
      have ran := tryExecute_run_ok resolution known (insertBlock_run bare received work)
      simpa only [Edit.apply, Edit.removes, Bool.or_false] using ran
  | change =>
      have known : Verb.ofChar? r.verb = some .change := by rw [letter]; rfl
      obtain ⟨first, nonempty⟩ := removing rfl
      have work := @Document.change_eq (e.resolved r).document _ _ first range.ordered last block
      have ran := tryExecute_run_ok resolution known (changeRange_run bare nonempty received work)
      simpa only [Edit.apply, Edit.removes, Bool.or_true, Bool.true_or] using ran
  | delete =>
      have known : Verb.ofChar? r.verb = some .delete := by rw [letter]; rfl
      obtain ⟨first, nonempty⟩ := removing rfl
      obtain ⟨rfl, rfl⟩ : block = [] ∧ rest = s.source := received
      have work := @Document.delete_eq (e.resolved r).document _ _ first range.ordered last
      have ran := tryExecute_run_ok resolution known (deleteRange_run s bare nonempty work)
      simpa only [Edit.apply, Edit.removes, Edit.lines, List.append_nil, Bool.or_true,
        Bool.true_or] using ran

theorem tryExecute_splices_tail :
    let e : Editor := ofDocument ⟨⟨[['a'], ['b'], ['c']]⟩, 2, false, none⟩
    let line : Text := ['.', ',', '$', 'c', ' ']
    let s : Surroundings := ⟨⟨[['x'], ['y'], ['.'], ['p']], true⟩, ⟨[], some 0⟩, .empty []⟩
    let after : Document := ⟨⟨[['a'], ['x'], ['y']]⟩, 3, true, none⟩
    e.document.CursorInside ∧
      (e.tryExecute line).run s =
        (⟨ofDocument after, .ok .proceed⟩, { s with source := ⟨[['p']], true⟩ }) := by
  intro e line s after
  have inside : e.document.CursorInside := by decide
  have resolution : resolve ['.', ',', '$', 'c', ' '] ⟨[['a'], ['b'], ['c']]⟩ 2 none =
      .ok ⟨2, 3, ['c', ' '], 2, none⟩ := rfl
  refine ⟨inside, ?_⟩
  exact @tryExecute_splices e s ⟨[['p']], true⟩ [['x'], ['y']] line _ .change resolution inside
    rfl rfl (by decide) (by decide)

end Editor

end LineEditor
