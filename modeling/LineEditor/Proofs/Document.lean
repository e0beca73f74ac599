import LineEditor.Document
import LineEditor.Proofs.Address.Range

/-! Inserting and deleting put the current line inside the document, wherever it was before. -/
namespace LineEditor

namespace Document

/-- The current line is a line of the document, or 0 if there are none. -/
def CursorInside (d : Document) : Prop := d.buffer.HasLine d.cursor

theorem cursorInside_iff (d : Document) :
    d.CursorInside ↔ d.buffer.holds d.cursor = true :=
  d.buffer.hasLine_iff d.cursor

instance (d : Document) : Decidable d.CursorInside :=
  inferInstanceAs (Decidable (d.buffer.HasLine d.cursor))

theorem CursorInside.of_lineCount {d d' : Document} (h : d.CursorInside)
    (lines : d'.buffer.lineCount = d.buffer.lineCount) (cursor : d'.cursor = d.cursor) :
    d'.CursorInside := by
  rw [cursorInside_iff, Buffer.holds_iff] at h ⊢
  omega

theorem cursorInside_setClamped (d : Document) (addr : Nat) : (d.setClamped addr).CursorInside := by
  simp only [CursorInside, Buffer.HasLine, setClamped, clampAddress]
  split
  · rfl
  · omega

theorem cursorInside_ofBuffer (b : Buffer) : (ofBuffer b).CursorInside := by
  rw [cursorInside_iff]
  exact b.holds_lineCount

theorem cursorInside_ofLoaded (name : Text) (loaded : Loaded) :
    (ofLoaded name loaded).CursorInside :=
  cursorInside_ofBuffer ⟨loaded.lines⟩

theorem cursorInside_afterInsert (d : Document) (addr n : Nat) (new : List Text)
    (h : n ≤ d.buffer.lineCount) :
    (d.afterInsert addr (d.buffer.spliceAt n new) ⟨n + 1, n + 1 + new.length⟩).CursorInside := by
  unfold afterInsert
  split
  · exact cursorInside_setClamped _ _
  · next nonempty =>
    simp only [CursorInside, Buffer.HasLine, Buffer.lineCount_spliceAt]
    dsimp only at nonempty
    split <;> omega

theorem insert_meets (d : Document) (position : InsertPosition) (addr : Nat) (lines : List Text) :
    Meets (d.insert position addr lines) CursorInside EditorError.IsRefusal := by
  cases position with
  | before => exact .ok (cursorInside_afterInsert _ _ _ _ (d.buffer.countBefore_le addr))
  | after =>
      unfold insert Buffer.insertAfter
      dsimp only
      split
      · next h => exact .ok (cursorInside_afterInsert _ _ _ _ h)
      · exact .fail (by decide)

@[simp] theorem afterInsert_buffer (d : Document) (addr : Nat) (b : Buffer) (range : AddressRange) :
    (d.afterInsert addr b range).buffer = b := by
  unfold afterInsert
  split <;> rfl

@[simp] theorem afterInsert_filename (d : Document) (addr : Nat) (b : Buffer)
    (range : AddressRange) : (d.afterInsert addr b range).filename = d.filename := by
  unfold afterInsert
  split <;> rfl

theorem insert_ok {d after : Document} {position : InsertPosition} {addr : Nat} {lines : List Text}
    (work : d.insert position addr lines = .ok after) :
    ∃ n, after = d.afterInsert addr (d.buffer.spliceAt n lines) ⟨n + 1, n + 1 + lines.length⟩ := by
  cases position with
  | before =>
      cases work
      exact ⟨_, rfl⟩
  | after =>
      unfold insert Buffer.insertAfter at work
      dsimp only at work
      split at work
      · cases work
        exact ⟨_, rfl⟩
      · cases work

theorem insert_unmodified {d after : Document} {position : InsertPosition} {addr : Nat}
    {lines : List Text} (work : d.insert position addr lines = .ok after)
    (unmodified : after.modified = false) :
    after.buffer = d.buffer ∧ d.modified = false := by
  obtain ⟨n, rfl⟩ := insert_ok work
  unfold afterInsert at unmodified ⊢
  split
  · next empty =>
    rw [if_pos empty] at unmodified
    have nothing : lines = [] :=
      List.length_eq_zero_iff.mp (by dsimp only at empty; omega)
    refine ⟨?_, unmodified⟩
    simp [Buffer.spliceAt, nothing]
  · next nonempty =>
    rw [if_neg nonempty] at unmodified
    cases unmodified

theorem insert_filename {d after : Document} {position : InsertPosition} {addr : Nat}
    {lines : List Text} (work : d.insert position addr lines = .ok after) :
    after.filename = d.filename := by
  obtain ⟨n, rfl⟩ := insert_ok work
  rw [afterInsert_filename]

theorem delete_filename {d after : Document} {start stop : Nat} {removed : List Text}
    (work : d.delete start stop = .ok (after, removed)) : after.filename = d.filename := by
  obtain ⟨_, -, work⟩ := of_bind_ok work
  cases work
  rfl

theorem delete_modified {d after : Document} {start stop : Nat} {removed : List Text}
    (work : d.delete start stop = .ok (after, removed)) : after.modified = true := by
  unfold delete Buffer.delete at work
  split at work
  · cases work
    rfl
  · cases work

theorem delete_meets (d : Document) (start stop : Nat) :
    Meets (d.delete start stop) (fun r => r.1.CursorInside) EditorError.IsRefusal := by
  unfold delete Buffer.delete
  split
  · exact .ok (cursorInside_setClamped _ _)
  · exact .fail (by decide)

end Document

end LineEditor
