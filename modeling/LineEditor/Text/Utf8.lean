import LineEditor.Text.Basic

/-! UTF-8 in both directions. Decoding never fails: every maximal part of the bytes that begins a
character and cannot be completed, and every byte that begins none, reads as one replacement
character. -/
namespace LineEditor.Text

abbrev Bytes := List UInt8

def encode (t : Text) : Bytes := t.flatMap String.utf8EncodeChar

def replacement : Char := '\ufffd'

/-- A character whose first bytes were read: the bits so far, how many bytes are missing, and the
interval in which the next of them must lie. -/
structure Unfinished where
  bits : Nat
  missing : Nat
  low : UInt8
  high : UInt8

inductive Lead where
  | ascii
  | multibyte (start : Unfinished)
  | invalid

/-- Only these bytes begin a character. The narrower intervals of the second byte shut out overlong
forms, surrogates and numbers past the last code point. -/
def lead (b : UInt8) : Lead :=
  if b < 0x80 then .ascii
  else if b < 0xc2 then .invalid
  else if b < 0xe0 then .multibyte ⟨b.toNat - 0xc0, 1, 0x80, 0xbf⟩
  else if b = 0xe0 then .multibyte ⟨0, 2, 0xa0, 0xbf⟩
  else if b = 0xed then .multibyte ⟨0xd, 2, 0x80, 0x9f⟩
  else if b < 0xf0 then .multibyte ⟨b.toNat - 0xe0, 2, 0x80, 0xbf⟩
  else if b = 0xf0 then .multibyte ⟨0, 3, 0x90, 0xbf⟩
  else if b < 0xf4 then .multibyte ⟨b.toNat - 0xf0, 3, 0x80, 0xbf⟩
  else if b = 0xf4 then .multibyte ⟨4, 3, 0x80, 0x8f⟩
  else .invalid

def readFirst (b : UInt8) : Text × Option Unfinished :=
  match lead b with
  | .ascii => ([Char.ofNat b.toNat], none)
  | .multibyte start => ([], some start)
  | .invalid => ([replacement], none)

/-- Reading a byte inside a character. A byte that cannot continue it ends it and is read afresh. -/
def readNext (p : Unfinished) (b : UInt8) : Text × Option Unfinished :=
  if p.low ≤ b ∧ b ≤ p.high then
    let bits := p.bits * 64 + (b.toNat - 0x80)
    if p.missing ≤ 1 then ([Char.ofNat bits], none)
    else ([], some ⟨bits, p.missing - 1, 0x80, 0xbf⟩)
  else
    let (read, next) := readFirst b
    (replacement :: read, next)

def decodeFrom : Option Unfinished → Bytes → Text
  | none, [] => []
  | some _, [] => [replacement]
  | none, b :: bytes => (readFirst b).1 ++ decodeFrom (readFirst b).2 bytes
  | some p, b :: bytes => (readNext p b).1 ++ decodeFrom (readNext p b).2 bytes

def decode (bytes : Bytes) : Text := decodeFrom none bytes

@[simp] theorem decode_nil : decode [] = [] := rfl

@[simp] theorem encode_nil : encode [] = [] := rfl

@[simp] theorem encode_cons (c : Char) (t : Text) :
    encode (c :: t) = String.utf8EncodeChar c ++ encode t := rfl

theorem encode_append (s t : Text) : encode (s ++ t) = encode s ++ encode t := by
  simp [encode]

theorem length_encode (t : Text) : (encode t).length = byteLength t := by
  induction t with
  | nil => rfl
  | cons c t ih => simp [ih, byteLength]

end LineEditor.Text
