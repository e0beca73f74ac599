import LineEditor.Text.Basic

/-! Numbers in decimal digits. -/
namespace LineEditor.Text

def number (digits : Text) : Nat :=
  digits.foldl (fun n c => n * 10 + (c.toNat - '0'.toNat)) 0

def decimal (n : Nat) : Text := Nat.toDigits 10 n

end LineEditor.Text
