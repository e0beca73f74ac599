import LineEditor.Regex.Escape

/-! Bracketed sets: members, intervals, named ASCII sets, nested brackets, and the operations
between them, which bind alike and group to the left. Beside its members a bracket has a depth, the
number of levels of its notation, because patterns may nest only so far. -/
namespace LineEditor.Regex

inductive SetOp where
  | inter
  | diff
  | symmDiff

def SetOp.apply : SetOp → CharSet → CharSet → CharSet
  | .inter => .inter
  | .diff => .diff
  | .symmDiff => .symmDiff

structure Members where
  set : CharSet := .empty
  items : Nat := 0
  depth : Nat := 0

namespace Members

def push (m : Members) (s : CharSet) (depth : Nat) : Members :=
  ⟨m.set.union s, m.items + 1, max m.depth depth⟩

def level (m : Members) : Nat := if m.items ≤ 1 then m.depth else m.depth + 1

end Members

structure Bracket where
  negated : Bool
  pending : Option (SetOp × CharSet × Nat) := none
  members : Members := {}

namespace Bracket

def push (b : Bracket) (s : CharSet) (depth : Nat) : Bracket :=
  { b with members := b.members.push s depth }

/-- The value of what stands in the bracket so far, and its depth. Operands are closed under case
before an operation, so that ignoring case means the same for each of them. -/
def value (flags : Flags) (b : Bracket) : Reading (CharSet × Nat) :=
  match b.pending with
  | none => .ok (b.members.set, b.members.level)
  | some (op, left, depth) => do
      let left ← flags.close false left
      let right ← flags.close false b.members.set
      return (op.apply left right, max depth b.members.level + 1)

def operate (flags : Flags) (b : Bracket) (op : SetOp) : Reading Bracket := do
  let (set, depth) ← b.value flags
  return { b with pending := some (op, set, depth), members := {} }

def finish (flags : Flags) (b : Bracket) : Reading (CharSet × Nat) := do
  let (set, depth) ← b.value flags
  return (← flags.close b.negated set, depth + 1)

end Bracket

def asciiSets : List (String × String) :=
  [("alnum", "30-39 41-5a 61-7a"), ("alpha", "41-5a 61-7a"), ("ascii", "0-7f"), ("blank", "9 20"),
    ("cntrl", "0-1f 7f"), ("digit", "30-39"), ("graph", "21-7e"), ("lower", "61-7a"),
    ("print", "20-7e"), ("punct", "21-2f 3a-40 5b-60 7b-7e"), ("space", "9-d 20"),
    ("upper", "41-5a"), ("word", "30-39 41-5a 5f 61-7a"), ("xdigit", "30-39 41-46 61-66")]

def asciiSet? (t : Text) : Option (Bool × CharSet × Text) :=
  match t with
  | ':' :: t =>
      let (negated, t) := match t with
        | '^' :: t => (true, t)
        | t => (false, t)
      let name := t.takeWhile (· ≠ ':')
      match t.dropWhile (· ≠ ':') with
      | ':' :: ']' :: rest =>
          (asciiSets.find? fun entry => entry.1.toList = name).map fun entry =>
            (negated, .ofHex entry.2, rest)
      | _ => none
  | _ => none

def memberChar (flags : Flags) (c : Char) (twoDigits : Bool) : Reading Char :=
  if flags.unicode || c.toNat < 0x80 then .ok c
  else if twoDigits then .error .invalidUtf8
  else .error .unicodeDisabled

def readMember (flags : Flags) : Text → Reading (Atom × Text)
  | [] => .error .classUnclosed
  | '\\' :: t => readEscape flags t
  | c :: t => .ok (.literal c false, t)

def Atom.asMembers (flags : Flags) : Atom → Reading CharSet
  | .literal c twoDigits => return .single (← memberChar flags c twoDigits)
  | .set s => .ok s
  | .look _ => .error .classMember

def Atom.asBound (flags : Flags) : Atom → Reading Char
  | .literal c twoDigits => memberChar flags c twoDigits
  | _ => .error .classRange

/-- A member or an interval. A dash that a bracket or another dash follows begins no interval. -/
def readRange (flags : Flags) (t : Text) : Reading (CharSet × Text) := do
  let (first, t) ← readMember flags t
  match flags.skip t with
  | [] => .error .classUnclosed
  | '-' :: t =>
      if flags.peek t = some ']' ∨ flags.peek t = some '-' then
        return (← first.asMembers flags, '-' :: t)
      else do
        let (last, t) ← readMember flags (flags.skip t)
        let low ← first.asBound flags
        let high ← last.asBound flags
        if low ≤ high then return (.between low high, t) else .error .classRange
  | t => return (← first.asMembers flags, t)

def leadingDashes (flags : Flags) : Nat → Bracket → Text → Bracket × Text
  | 0, b, t => (b, t)
  | fuel + 1, b, t =>
      match t with
      | '-' :: rest => leadingDashes flags fuel (b.push (.single '-') 0) (flags.skip rest)
      | _ => (b, t)

/-- The start of a bracket, from behind it: a caret turns it around, and a closing bracket that
comes first is literal. -/
def openBracket (flags : Flags) (t : Text) : Bracket × Text :=
  let (negated, t) := match flags.skip t with
    | '^' :: rest => (true, flags.skip rest)
    | t => (false, t)
  let (b, t) := leadingDashes flags t.length { negated } t
  match t with
  | ']' :: rest => if b.members.items = 0 then (b.push (.single ']') 0, flags.skip rest) else (b, t)
  | _ => (b, t)

def readBracket (flags : Flags) : Nat → Bracket → Text → Reading ((CharSet × Nat) × Text)
  | 0, _, _ => .error .classUnclosed
  | fuel + 1, b, t =>
      match flags.skip t with
      | [] => .error .classUnclosed
      | ']' :: rest => return (← b.finish flags, rest)
      | '[' :: rest =>
          match asciiSet? rest with
          | some (negated, s, rest) => do
              readBracket flags fuel (b.push (← flags.close negated s) 0) rest
          | none => do
              let (inner, rest) := openBracket flags rest
              let ((s, depth), rest) ← readBracket flags fuel inner rest
              readBracket flags fuel (b.push s depth) rest
      | '&' :: '&' :: rest => do readBracket flags fuel (← b.operate flags .inter) rest
      | '-' :: '-' :: rest => do readBracket flags fuel (← b.operate flags .diff) rest
      | '~' :: '~' :: rest => do readBracket flags fuel (← b.operate flags .symmDiff) rest
      | t => do
          let (s, rest) ← readRange flags t
          readBracket flags fuel (b.push s 0) rest

end LineEditor.Regex
