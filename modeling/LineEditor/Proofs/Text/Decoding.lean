import LineEditor.Proofs.Text.Utf8

/-! Bytes can be decoded line by line. A newline cannot go on with a character that was begun, so
what is in front of it and what is behind it are decoded each on its own, whether or not they are
UTF-8. -/
namespace LineEditor

namespace Text

section

variable {b : UInt8} {bytes : Bytes} {p : Unfinished}

/-- What reading a byte gives, whatever byte it is: a character at least that is complete or begun,
and one that is begun only goes on with bytes that are no ASCII. -/
structure Advances (read : Text × Option Unfinished) : Prop where
  onward : read.1 ≠ [] ∨ read.2 ≠ none
  low : ∀ u ∈ read.2, 0x80 ≤ u.low

theorem low_of_lead (h : lead b = .multibyte p) : 0x80 ≤ p.low := by
  unfold lead at h
  repeat' split at h
  all_goals simp only [Lead.multibyte.injEq, reduceCtorEq] at h
  all_goals
    subst h
    dsimp only
    decide

theorem readFirst_advances (b : UInt8) : Advances (readFirst b) := by
  unfold readFirst
  split
  · exact ⟨.inl (List.cons_ne_nil _ _), by simp⟩
  · next start begun =>
    refine ⟨.inr (by simp), ?_⟩
    rintro _ ⟨⟩
    exact low_of_lead begun
  · exact ⟨.inl (List.cons_ne_nil _ _), by simp⟩

theorem readNext_advances (p : Unfinished) (b : UInt8) : Advances (readNext p b) := by
  unfold readNext
  split
  · dsimp only
    split
    · exact ⟨.inl (List.cons_ne_nil _ _), by simp⟩
    · refine ⟨.inr (by simp), fun u next => ?_⟩
      rw [← Option.some.inj next]
      dsimp only
      decide
  · exact ⟨.inl (List.cons_ne_nil _ _), (readFirst_advances b).low⟩

theorem decodeFrom_ne_nil {p : Option Unfinished} (given : p ≠ none ∨ bytes ≠ []) :
    decodeFrom p bytes ≠ [] := by
  induction bytes generalizing p with
  | nil =>
      cases p with
      | none => simp at given
      | some p => exact List.cons_ne_nil _ _
  | cons b bytes ih =>
      have step {read : Text × Option Unfinished} (advances : Advances read) :
          read.1 ++ decodeFrom read.2 bytes ≠ [] := by
        rcases advances.onward with complete | begun
        · exact List.append_ne_nil_of_left_ne_nil complete _
        · exact List.append_ne_nil_of_right_ne_nil _ (ih (.inl begun))
      cases p with
      | none => exact step (readFirst_advances b)
      | some p => exact step (readNext_advances p b)

theorem decode_eq_nil_iff : decode bytes = [] ↔ bytes = [] := by
  refine ⟨fun none => ?_, fun empty => empty ▸ decode_nil⟩
  exact Decidable.byContradiction fun given => decodeFrom_ne_nil (.inr given) none

theorem readFirst_newline : readFirst newlineByte = (['\n'], none) := rfl

theorem readNext_newline (low : 0x80 ≤ p.low) :
    readNext p newlineByte = ([replacement, '\n'], none) := by
  have outside : ¬ (p.low ≤ newlineByte ∧ newlineByte ≤ p.high) :=
    fun inside => absurd (UInt8.le_trans low inside.1) (by decide)
  rw [readNext, if_neg outside, readFirst_newline]

theorem decodeFrom_newline {p : Option Unfinished} (low : ∀ u ∈ p, 0x80 ≤ u.low)
    (line rest : Bytes) :
    decodeFrom p (line ++ newlineByte :: rest) =
      decodeFrom p line ++ '\n' :: decodeFrom none rest := by
  -- the induction goes over the bytes in front, behind which no character is open any more
  induction line generalizing p with
  | nil =>
      cases p with
      | none => simp only [List.nil_append, decodeFrom, readFirst_newline, List.singleton_append]
      | some p =>
          simp only [List.nil_append, decodeFrom, readNext_newline (low p rfl),
            List.cons_append]
  | cons b line ih =>
      have step {read : Text × Option Unfinished} (advances : Advances read) :
          read.1 ++ decodeFrom read.2 (line ++ newlineByte :: rest) =
            read.1 ++ decodeFrom read.2 line ++ '\n' :: decodeFrom none rest := by
        rw [ih advances.low, List.append_assoc]
      cases p with
      | none => exact step (readFirst_advances b)
      | some p => exact step (readNext_advances p b)

theorem decode_newline (line rest : Bytes) :
    decode (line ++ newlineByte :: rest) = decode line ++ '\n' :: decode rest :=
  decodeFrom_newline (by simp) line rest

/-- Cutting at the newlines and decoding can change places. -/
theorem pieces_decode (bytes : Bytes) :
    pieces '\n' (decode bytes) = (pieces newlineByte bytes).map decode := by
  induction bytes using @lines_induction _ newlineByte with
  | unended bytes none =>
      rw [pieces_unended none, pieces_unended (newline_notMem_decode none)]
      simp only [decode_eq_nil_iff]
      split <;> rfl
  | ended line rest none ih =>
      rw [decode_newline, pieces_append_newline none,
        pieces_append_newline (newline_notMem_decode none), ih, List.map_cons]

end

end Text

theorem linesOfBytes_eq_pieces (bytes : Text.Bytes) :
    linesOfBytes bytes = Text.pieces '\n' (Text.decode bytes) := by
  rw [linesOfBytes_eq, Text.pieces_decode]

end LineEditor
