import LineEditor.Proofs.Text.Lines

/-! Text that is encoded is decoded to itself, and what is read as a newline was the byte of one. So
lines that are written out are read back, and no line that is read holds a newline. -/
namespace LineEditor

namespace Text

section Lead

variable {n : Nat}

theorem lead_byte (h : n < 256) :
    lead (UInt8.ofNat n) =
      if n < 0x80 then .ascii
      else if n < 0xc2 then .invalid
      else if n < 0xe0 then .multibyte ⟨n - 0xc0, 1, 0x80, 0xbf⟩
      else if n = 0xe0 then .multibyte ⟨0, 2, 0xa0, 0xbf⟩
      else if n = 0xed then .multibyte ⟨0xd, 2, 0x80, 0x9f⟩
      else if n < 0xf0 then .multibyte ⟨n - 0xe0, 2, 0x80, 0xbf⟩
      else if n = 0xf0 then .multibyte ⟨0, 3, 0x90, 0xbf⟩
      else if n < 0xf4 then .multibyte ⟨n - 0xf0, 3, 0x80, 0xbf⟩
      else if n = 0xf4 then .multibyte ⟨4, 3, 0x80, 0x8f⟩
      else .invalid := by
  have byte : (UInt8.ofNat n).toNat = n := UInt8.toNat_ofNat_of_lt' h
  simp only [lead, UInt8.lt_iff_toNat_lt, ← UInt8.toNat_inj, byte, UInt8.reduceToNat]

theorem lead_of_one (h : n < 0x80) : lead (UInt8.ofNat n) = .ascii := by
  rw [lead_byte (by omega), if_pos h]

theorem lead_of_two (low : 0xc2 ≤ n) (high : n < 0xe0) :
    lead (UInt8.ofNat n) = .multibyte ⟨n - 0xc0, 1, 0x80, 0xbf⟩ := by
  rw [lead_byte (by omega), if_neg (by omega), if_neg (by omega), if_pos high]

theorem lead_of_three (low : 0xe0 ≤ n) (high : n < 0xf0) :
    lead (UInt8.ofNat n) = .multibyte
      ⟨n - 0xe0, 2, if n = 0xe0 then 0xa0 else 0x80, if n = 0xed then 0x9f else 0xbf⟩ := by
  rw [lead_byte (by omega), if_neg (by omega), if_neg (by omega), if_neg (by omega)]
  by_cases first : n = 0xe0
  · subst first
    rfl
  · by_cases surrogate : n = 0xed
    · subst surrogate
      rfl
    · simp only [if_neg first, if_neg surrogate, if_pos high]

theorem lead_of_four (low : 0xf0 ≤ n) (high : n < 0xf5) :
    lead (UInt8.ofNat n) = .multibyte
      ⟨n - 0xf0, 3, if n = 0xf0 then 0x90 else 0x80, if n = 0xf4 then 0x8f else 0xbf⟩ := by
  rw [lead_byte (by omega), if_neg (by omega), if_neg (by omega), if_neg (by omega),
    if_neg (by omega), if_neg (by omega), if_neg (by omega)]
  by_cases first : n = 0xf0
  · subst first
    rfl
  · by_cases last : n = 0xf4
    · subst last
      rfl
    · simp only [if_neg first, if_neg last, if_pos (show n < 0xf4 by omega)]

end Lead

section Decode

variable {b : UInt8} {bytes : Bytes} {p : Unfinished} {bits missing : Nat} {low high : UInt8}
  {n n₁ n₂ n₃ n₄ : Nat}

theorem decodeFrom_ascii (h : lead b = .ascii) :
    decodeFrom none (b :: bytes) = Char.ofNat b.toNat :: decodeFrom none bytes := by
  simp only [decodeFrom, readFirst, h, List.singleton_append]

theorem decodeFrom_multibyte (h : lead b = .multibyte p) :
    decodeFrom none (b :: bytes) = decodeFrom (some p) bytes := by
  simp only [decodeFrom, readFirst, h, List.nil_append]

theorem readNext_byte (above : low.toNat ≤ n + 0x80) (below : n + 0x80 ≤ high.toNat) :
    readNext ⟨bits, missing, low, high⟩ (UInt8.ofNat (n + 0x80)) =
      if missing ≤ 1 then ([Char.ofNat (bits * 64 + n)], none)
      else ([], some ⟨bits * 64 + n, missing - 1, 0x80, 0xbf⟩) := by
  have byte : (UInt8.ofNat (n + 0x80)).toNat = n + 0x80 :=
    UInt8.toNat_ofNat_of_lt' (Nat.lt_of_le_of_lt below high.toNat_lt)
  have inside : low ≤ UInt8.ofNat (n + 0x80) ∧ UInt8.ofNat (n + 0x80) ≤ high := by
    rw [UInt8.le_iff_toNat_le, UInt8.le_iff_toNat_le, byte]
    exact ⟨above, below⟩
  simp only [readNext, if_pos inside, byte, Nat.add_sub_cancel]

theorem decodeFrom_second (above : low.toNat ≤ n + 0x80) (below : n + 0x80 ≤ high.toNat) :
    decodeFrom (some ⟨bits, missing + 2, low, high⟩) (UInt8.ofNat (n + 0x80) :: bytes) =
      decodeFrom (some ⟨bits * 64 + n, missing + 1, 0x80, 0xbf⟩) bytes := by
  rw [decodeFrom, readNext_byte above below, if_neg (by omega), List.nil_append]
  rfl

theorem decodeFrom_more (h : n < 64) :
    decodeFrom (some ⟨bits, missing + 2, 0x80, 0xbf⟩) (UInt8.ofNat (n + 0x80) :: bytes) =
      decodeFrom (some ⟨bits * 64 + n, missing + 1, 0x80, 0xbf⟩) bytes :=
  decodeFrom_second (Nat.le_add_left _ _) (Nat.add_le_add_right (Nat.le_of_lt_succ h) 0x80)

theorem decodeFrom_last (h : n < 64) :
    decodeFrom (some ⟨bits, 1, 0x80, 0xbf⟩) (UInt8.ofNat (n + 0x80) :: bytes) =
      Char.ofNat (bits * 64 + n) :: decodeFrom none bytes := by
  have next := @readNext_byte bits 1 0x80 0xbf n (Nat.le_add_left _ _)
    (Nat.add_le_add_right (Nat.le_of_lt_succ h) 0x80)
  rw [decodeFrom, next, if_pos (Nat.le_refl 1), List.singleton_append]

theorem decodeFrom_two (h₁ : n₁ < 32) (h₂ : n₂ < 64) (long : 0x80 ≤ n₁ * 64 + n₂) :
    decodeFrom none (UInt8.ofNat (n₁ + 0xc0) :: UInt8.ofNat (n₂ + 0x80) :: bytes) =
      Char.ofNat (n₁ * 64 + n₂) :: decodeFrom none bytes := by
  rw [decodeFrom_multibyte (lead_of_two (by omega) (by omega)), Nat.add_sub_cancel,
    decodeFrom_last h₂]

/-- Three bytes stand for no number that two could, and for no surrogate. -/
theorem decodeFrom_three (h₁ : n₁ < 16) (h₂ : n₂ < 64) (h₃ : n₃ < 64)
    (long : 0x800 ≤ (n₁ * 64 + n₂) * 64 + n₃)
    (valid : (n₁ * 64 + n₂) * 64 + n₃ < 0xd800 ∨ 0xdfff < (n₁ * 64 + n₂) * 64 + n₃) :
    decodeFrom none
        (UInt8.ofNat (n₁ + 0xe0) :: UInt8.ofNat (n₂ + 0x80) :: UInt8.ofNat (n₃ + 0x80) :: bytes) =
      Char.ofNat ((n₁ * 64 + n₂) * 64 + n₃) :: decodeFrom none bytes := by
  rw [decodeFrom_multibyte (lead_of_three (by omega) (by omega)), Nat.add_sub_cancel,
    decodeFrom_second ?above ?below, decodeFrom_last h₃]
  case above => split <;> simp only [UInt8.reduceToNat] <;> omega
  case below => split <;> simp only [UInt8.reduceToNat] <;> omega

/-- Four bytes stand for no number that three could, and for none past the last character. -/
theorem decodeFrom_four (h₁ : n₁ < 8) (h₂ : n₂ < 64) (h₃ : n₃ < 64) (h₄ : n₄ < 64)
    (long : 0x10000 ≤ ((n₁ * 64 + n₂) * 64 + n₃) * 64 + n₄)
    (valid : ((n₁ * 64 + n₂) * 64 + n₃) * 64 + n₄ < 0x110000) :
    decodeFrom none (UInt8.ofNat (n₁ + 0xf0) :: UInt8.ofNat (n₂ + 0x80) ::
        UInt8.ofNat (n₃ + 0x80) :: UInt8.ofNat (n₄ + 0x80) :: bytes) =
      Char.ofNat (((n₁ * 64 + n₂) * 64 + n₃) * 64 + n₄) :: decodeFrom none bytes := by
  rw [decodeFrom_multibyte (lead_of_four (by omega) (by omega)), Nat.add_sub_cancel,
    decodeFrom_second ?above ?below, decodeFrom_more h₃, decodeFrom_last h₄]
  case above => split <;> simp only [UInt8.reduceToNat] <;> omega
  case below => split <;> simp only [UInt8.reduceToNat] <;> omega

end Decode

theorem decodeFrom_encodeChar (c : Char) (bytes : Bytes) :
    decodeFrom none (String.utf8EncodeChar c ++ bytes) = c :: decodeFrom none bytes := by
  have valid : c.val.toNat < 0xd800 ∨ 0xdfff < c.val.toNat ∧ c.val.toNat < 0x110000 := c.valid
  have same {n : Nat} (h : n = c.val.toNat) : Char.ofNat n = c := by
    rw [h]
    exact c.ofNat_toNat
  unfold String.utf8EncodeChar
  dsimp only
  generalize c.val.toNat = v at *
  split
  · have byte : (UInt8.ofNat v).toNat = v := UInt8.toNat_ofNat_of_lt' (show v < 256 by omega)
    rw [List.singleton_append, decodeFrom_ascii (lead_of_one (by omega)), byte, same rfl]
  · split
    · rw [List.cons_append, List.singleton_append,
        decodeFrom_two (by omega) (by omega) (by omega), same (by omega)]
    · split
      · rw [List.cons_append, List.cons_append, List.singleton_append,
          decodeFrom_three (by omega) (by omega) (by omega) (by omega) (by omega), same (by omega)]
      · rw [List.cons_append, List.cons_append, List.cons_append, List.singleton_append,
          decodeFrom_four (by omega) (by omega) (by omega) (by omega) (by omega) (by omega),
          same (by omega)]

@[simp] theorem decode_encode (t : Text) : decode (encode t) = t := by
  induction t with
  | nil => rfl
  | cons c t ih => rw [encode_cons, decode, decodeFrom_encodeChar, ← decode, ih]

theorem newlineByte_mem_encodeChar {c : Char} (h : newlineByte ∈ String.utf8EncodeChar c) :
    c = '\n' := by
  have other {n : Nat} (high : 0x80 ≤ n) (byte : n < 256) : newlineByte ≠ UInt8.ofNat n := by
    intro same
    have code : newlineByte.toNat = n := by rw [same, UInt8.toNat_ofNat_of_lt' byte]
    exact absurd high (by rw [← code]; decide)
  unfold String.utf8EncodeChar at h
  dsimp only at h
  split at h
  · next one =>
    have byte : (UInt8.ofNat c.val.toNat).toNat = c.val.toNat :=
      UInt8.toNat_ofNat_of_lt' (show c.val.toNat < 256 by omega)
    have code : c.val.toNat = newlineByte.toNat := by rw [List.mem_singleton.mp h, byte]
    exact Char.toNat_inj.mp code
  · exfalso
    split at h
    · simp only [List.mem_cons, List.not_mem_nil, or_false] at h
      rcases h with h | h <;> exact other (by omega) (by omega) h
    · split at h
      · simp only [List.mem_cons, List.not_mem_nil, or_false] at h
        rcases h with h | h | h <;> exact other (by omega) (by omega) h
      · simp only [List.mem_cons, List.not_mem_nil, or_false] at h
        rcases h with h | h | h | h <;> exact other (by omega) (by omega) h

theorem newlineByte_notMem_encode {t : Text} (h : '\n' ∉ t) : newlineByte ∉ encode t := by
  intro member
  obtain ⟨c, present, byte⟩ := List.mem_flatMap.mp member
  rw [newlineByte_mem_encodeChar byte] at present
  exact h present

section Newline

variable {b : UInt8} {bytes : Bytes} {p : Unfinished}

def Unfinished.least (p : Unfinished) : Nat := p.bits * 64 + (p.low.toNat - 0x80)

theorem Unfinished.least_mk (bits missing : Nat) (low high : UInt8) :
    least ⟨bits, missing, low, high⟩ = bits * 64 + (low.toNat - 0x80) := rfl

/-- What reading a byte gives if no newline comes of anything but its byte: neither of this byte, nor
of the character it begins. -/
structure Plain (b : UInt8) (read : Text × Option Unfinished) : Prop where
  newline : '\n' ∈ read.1 → b = newlineByte
  begun : ∀ p ∈ read.2, 10 < p.least

theorem least_of_lead (h : lead b = .multibyte p) : 10 < p.least := by
  simp only [lead, UInt8.lt_iff_toNat_lt, ← UInt8.toNat_inj, UInt8.reduceToNat] at h
  repeat' split at h
  all_goals simp only [Lead.multibyte.injEq, reduceCtorEq] at h
  all_goals
    subst h
    simp only [Unfinished.least_mk, UInt8.reduceToNat]
    omega

theorem ofNat_eq_newline {n : Nat} (h : Char.ofNat n = '\n') : n = 10 := by
  by_cases valid : n.isValidChar
  · rw [Char.ofNat, dif_pos valid] at h
    exact congrArg Char.toNat h
  · rw [Char.ofNat, dif_neg valid] at h
    cases h

theorem replacement_ne_newline : replacement ≠ '\n' := by decide

theorem readFirst_plain (b : UInt8) : Plain b (readFirst b) := by
  unfold readFirst
  split
  · refine ⟨fun h => ?_, by simp⟩
    have code := ofNat_eq_newline (List.mem_singleton.mp h).symm
    exact UInt8.toNat_inj.mp code
  · next start begun =>
    refine ⟨by simp, ?_⟩
    rintro _ ⟨⟩
    exact least_of_lead begun
  · exact ⟨fun h => absurd (List.mem_singleton.mp h).symm replacement_ne_newline, by simp⟩

theorem readNext_plain (h : 10 < p.least) (b : UInt8) : Plain b (readNext p b) := by
  unfold readNext
  split
  · next inside =>
    have above : p.low.toNat ≤ b.toNat := UInt8.le_iff_toNat_le.mp inside.1
    have grown : 10 < p.bits * 64 + (b.toNat - 0x80) := by
      unfold Unfinished.least at h
      omega
    dsimp only
    split
    · refine ⟨fun h => ?_, by simp⟩
      have code := ofNat_eq_newline (List.mem_singleton.mp h).symm
      omega
    · refine ⟨by simp, fun u next => ?_⟩
      simp only [← Option.some.inj next, Unfinished.least_mk, UInt8.reduceToNat]
      omega
  · refine ⟨fun h => ?_, (readFirst_plain b).begun⟩
    rcases List.mem_cons.mp h with h | h
    · exact absurd h.symm replacement_ne_newline
    · exact (readFirst_plain b).newline h

theorem newline_mem_decodeFrom {p : Option Unfinished} (begun : ∀ u ∈ p, 10 < u.least)
    (h : '\n' ∈ decodeFrom p bytes) : newlineByte ∈ bytes := by
  induction bytes generalizing p with
  | nil =>
      cases p with
      | none => cases h
      | some p => exact absurd (List.mem_singleton.mp h).symm replacement_ne_newline
  | cons b bytes ih =>
      have step {read : Text × Option Unfinished} (plain : Plain b read)
          (h : '\n' ∈ read.1 ++ decodeFrom read.2 bytes) : newlineByte ∈ b :: bytes := by
        rcases List.mem_append.mp h with h | h
        · rw [plain.newline h]
          exact List.mem_cons_self
        · exact List.mem_cons_of_mem _ (ih plain.begun h)
      cases p with
      | none => exact step (readFirst_plain b) h
      | some p => exact step (readNext_plain (begun p rfl) b) h

theorem newline_notMem_decode (h : newlineByte ∉ bytes) : '\n' ∉ decode bytes :=
  fun member => h (newline_mem_decodeFrom (by simp) member)

end Newline

end Text

theorem newline_notMem_linesOfBytes (bytes : Text.Bytes) :
    ∀ line ∈ linesOfBytes bytes, '\n' ∉ line := by
  intro line member
  rw [linesOfBytes_eq] at member
  obtain ⟨piece, split, rfl⟩ := List.mem_map.mp member
  exact Text.newline_notMem_decode (Text.newline_notMem_of_mem_pieces bytes piece split)

def bytesOfLines (lines : List Text) : Text.Bytes := Text.encode (Text.joinLines '\n' lines)

theorem bytesOfLines_eq (lines : List Text) :
    bytesOfLines lines = Text.joinLines newlineByte (lines.map Text.encode) := by
  induction lines with
  | nil => rfl
  | cons line lines ih =>
      unfold bytesOfLines at *
      rw [Text.joinLines_cons, Text.encode_append, Text.encode_cons, ih, List.map_cons,
        Text.joinLines_cons]
      rfl

theorem linesOfBytes_bytesOfLines {lines : List Text} (h : ∀ line ∈ lines, '\n' ∉ line) :
    linesOfBytes (bytesOfLines lines) = lines := by
  have pieces : ∀ piece ∈ lines.map Text.encode, newlineByte ∉ piece := by
    intro piece member
    obtain ⟨line, present, rfl⟩ := List.mem_map.mp member
    exact Text.newlineByte_notMem_encode (h line present)
  rw [linesOfBytes_eq, bytesOfLines_eq, Text.pieces_joinLines _ pieces, List.map_map]
  exact List.map_id'' Text.decode_encode lines

def fileLength : List Text → Nat
  | [] => 0
  | line :: lines => Text.byteLength line + 1 + fileLength lines

theorem length_bytesOfLines (lines : List Text) :
    (bytesOfLines lines).length = fileLength lines := by
  rw [bytesOfLines_eq]
  induction lines with
  | nil => rfl
  | cons line lines ih =>
      rw [List.map_cons, Text.joinLines_cons, List.length_append, List.length_cons, ih,
        Text.length_encode, fileLength]
      omega

theorem writeLines_eq (size : Nat) (lines : List Text) :
    writeLines size lines = (bytesOfLines lines, size + fileLength lines) := by
  rw [bytesOfLines_eq]
  induction lines generalizing size with
  | nil => rfl
  | cons line lines ih =>
      rw [writeLines, ih, List.map_cons, Text.joinLines_cons, fileLength, Nat.add_assoc size,
        Nat.add_assoc size]

end LineEditor
