import LineEditor.Address.Chain
import LineEditor.Regex.Basic
import LineEditor.Text.Decimal

/-! Addresses are worked out from left to right. A semicolon moves the current line, and a pattern
that is not empty is the one the next empty pattern stands for. -/
namespace LineEditor

structure Progress where
  current : Nat
  compiled : Option Regex

/-- The first sum that is too large: sums are words of 64 bits with a sign. -/
def sumLimit : Int := 0x8000000000000000

def signed (n : Int) : Except EditorError Int :=
  if -sumLimit ≤ n ∧ n < sumLimit then .ok n else .error .invalidAddress

namespace Buffer

/-- Address 0 is a line only of an empty document. -/
def holds (b : Buffer) (addr : Nat) : Bool :=
  addr ≤ b.lineCount && (0 < addr || b.lineCount = 0)

def require (b : Buffer) (addr : Nat) : Except EditorError Unit :=
  if b.holds addr then .ok () else .error .invalidAddress

end Buffer

def Progress.adopt (p : Progress) (source : Text) : Except EditorError Progress :=
  if source.isEmpty then .ok p
  else match Regex.compile false source with
    | .ok r => .ok { p with compiled := some r }
    | .error _ => .error .invalidPattern

def Base.value (b : Buffer) (last : Option Regex) (p : Progress) :
    Base → Except EditorError (Int × Progress)
  | .number digits => do return (← signed (Text.number digits), p)
  | .current => do return (← signed p.current, p)
  | .last => do return (← signed b.lineCount, p)
  | .pattern d source => do
      let p ← p.adopt source
      match p.compiled.or last with
      | none => .error .noPreviousPattern
      | some r =>
          let addr ← b.search p.current d r.isMatch
          return (← signed addr, p)

def Offset.value (o : Offset) : Except EditorError Int := do
  let size ← match o.digits with
    | some digits => signed (Text.number digits)
    | none => .ok 1
  return match o.sign with
    | .plus => size
    | .minus => -size

def addOffsets (current : Nat) : Option Int → List Offset → Except EditorError (Option Int)
  | value, [] => .ok value
  | value, o :: offsets => do
      let offset ← o.value
      let here ← signed current
      let sum ← signed (value.getD here + offset)
      addOffsets current (some sum) offsets

def Component.value (b : Buffer) (last : Option Regex) (p : Progress) (c : Component) :
    Except EditorError (Option Nat × Progress) := do
  let (base, p) ← match c.base with
    | some base => do
        let (value, p) ← base.value b last p
        pure (some value, p)
    | none => pure (none, p)
  match ← addOffsets p.current base c.offsets with
  | none => return (none, p)
  | some (.ofNat addr) => return (some addr, p)
  | some (.negSucc _) => .error .invalidAddress

def Separator.missing (b : Buffer) (p : Progress) : Separator → Nat
  | .comma => min 1 b.lineCount
  | .semicolon => p.current

def Separator.move (s : Separator) (left : Nat) (p : Progress) : Progress :=
  match s with
  | .comma => p
  | .semicolon => { p with current := left }

/-- Goes on with the components behind a first one, whose address is `pending`. The addresses are
collected with the latest in front; the last one is still pending at the end. A separator with no
address on either side reaches up to the last line. -/
def evaluateMore (b : Buffer) (last : Option Regex) :
    Progress → List Nat → Option Nat → List (Separator × Component) →
      Except EditorError (Progress × List Nat × Option Nat)
  | p, addrs, pending, [] => .ok (p, addrs, pending)
  | p, addrs, pending, (separator, component) :: more => do
      let left := pending.getD (separator.missing b p)
      b.require left
      let (value, p) ← component.value b last (separator.move left p)
      let next := if pending.isNone && value.isNone then some b.lineCount else value
      evaluateMore b last p (left :: addrs) next more

namespace Chain

def evaluate (b : Buffer) (last : Option Regex) (p : Progress) (c : Chain) :
    Except EditorError (Progress × List Nat) := do
  let (value, p) ← c.first.value b last p
  let (p, addrs, pending) ← evaluateMore b last p [] value c.more
  if c.stray then .error .invalidAddress
  else match pending with
    | none => return (p, addrs)
    | some addr =>
        b.require addr
        return (p, addr :: addrs)

end Chain

def Addresses.evaluate (b : Buffer) (last : Option Regex) (p : Progress) :
    Addresses → Except EditorError (Progress × List Nat)
  | .whole => .ok (p, [b.lineCount, min 1 b.lineCount])
  | .chain c => c.evaluate b last p

end LineEditor
