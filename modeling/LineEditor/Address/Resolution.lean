import LineEditor.Address.Evaluation

/-! The addresses in front of a command become the range of lines that it is for. -/
namespace LineEditor

structure Resolution where
  start : Nat
  stop : Nat
  rest : Text
  current : Nat
  pattern : Option Regex

namespace Resolution

def verb (r : Resolution) : Char := r.rest.head?.getD 'p'

end Resolution

def orPrint (rest : Text) : Text := if rest.isEmpty then ['p'] else rest

/-- The range that is meant, given the addresses with the latest in front. A blank line means the
line next to the current one. -/
def chooseRange (b : Buffer) (current : Nat) (rest : Text) :
    List Nat → Except EditorError (Nat × Nat)
  | [] =>
      if rest.isEmpty then
        if current + 1 < addressLimit then do
          b.require (current + 1)
          return (current + 1, current + 1)
        else .error .addressOverflow
      else .ok (current, current)
  | [addr] => .ok (addr, addr)
  | last :: previous :: _ => .ok (previous, last)

def resolve (text : Text) (b : Buffer) (current : Nat) (last : Option Regex) :
    Except EditorError Resolution := do
  let (addresses, rest) := Addresses.read text
  let (p, addrs) ← addresses.evaluate b last ⟨current, none⟩
  let (start, stop) ← chooseRange b p.current rest addrs
  if start ≤ stop ∧ stop ≤ b.lineCount then
    return ⟨start, stop, orPrint rest, p.current, p.compiled⟩
  else .error .invalidAddress

end LineEditor
