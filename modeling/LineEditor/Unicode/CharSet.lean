import LineEditor.Text.Basic

/-! Sets of characters as intervals of code points, in increasing order and apart from each other.
Membership looks at every interval, so it does not rest on that order; the complement does. -/
namespace LineEditor

structure Interval where
  first : Nat
  last : Nat
  deriving DecidableEq, Repr

def Interval.hull (i j : Interval) : Interval := ⟨min i.first j.first, max i.last j.last⟩

structure CharSet where
  intervals : List Interval
  deriving DecidableEq, Repr

namespace CharSet

def empty : CharSet := ⟨[]⟩

def single (c : Char) : CharSet := ⟨[⟨c.toNat, c.toNat⟩]⟩

def between (first last : Char) : CharSet := ⟨[⟨first.toNat, last.toNat⟩]⟩

def all : CharSet := ⟨[⟨0, 0xd7ff⟩, ⟨0xe000, 0x10ffff⟩]⟩

def containsCode (s : CharSet) (n : Nat) : Bool :=
  s.intervals.any fun i => i.first ≤ n && n ≤ i.last

def contains (s : CharSet) (c : Char) : Bool := s.containsCode c.toNat

def insertInterval (i : Interval) : List Interval → List Interval
  | [] => [i]
  | j :: js =>
      if i.last + 1 < j.first then i :: j :: js
      else if j.last + 1 < i.first then j :: insertInterval i js
      else insertInterval (i.hull j) js

def union (s t : CharSet) : CharSet := ⟨t.intervals.foldr insertInterval s.intervals⟩

def inter (s t : CharSet) : CharSet :=
  ⟨s.intervals.flatMap fun i => t.intervals.filterMap fun j =>
    let first := max i.first j.first
    let last := min i.last j.last
    if first ≤ last then some ⟨first, last⟩ else none⟩

def gaps (top start : Nat) : List Interval → List Interval
  | [] => if start ≤ top then [⟨start, top⟩] else []
  | i :: is =>
      if start < i.first then ⟨start, i.first - 1⟩ :: gaps top (i.last + 1) is
      else gaps top (i.last + 1) is

def compl (s : CharSet) : CharSet := inter ⟨gaps 0x10ffff 0 s.intervals⟩ all

def diff (s t : CharSet) : CharSet := s.inter t.compl

def symmDiff (s t : CharSet) : CharSet := (s.union t).diff (s.inter t)

def isEmpty (s : CharSet) : Bool := s.intervals.isEmpty

def isAscii (s : CharSet) : Bool := s.intervals.all fun i => i.last ≤ 0x7f

def single? (s : CharSet) : Option Nat :=
  match s.intervals with
  | [i] => if i.first = i.last then some i.first else none
  | _ => none

def hexDigit? (c : Char) : Option Nat :=
  if '0' ≤ c ∧ c ≤ '9' then some (c.toNat - '0'.toNat)
  else if 'a' ≤ c ∧ c ≤ 'f' then some (c.toNat - 'a'.toNat + 10)
  else if 'A' ≤ c ∧ c ≤ 'F' then some (c.toNat - 'A'.toNat + 10)
  else none

/-- Reads intervals written in hexadecimal, such as `30-39 41 61`. `first` is the lower end once a
dash was read, and `n` the digits since. -/
def readHex : Option Nat → Option Nat → Text → List Interval
  | first, some n, [] => [⟨first.getD n, n⟩]
  | _, none, [] => []
  | first, n, c :: t =>
      if c = '-' then readHex n none t
      else match hexDigit? c, n with
        | some d, n => readHex first (some (n.getD 0 * 16 + d)) t
        | none, some n => ⟨first.getD n, n⟩ :: readHex none none t
        | none, none => readHex none none t

def ofHex (s : String) : CharSet := ⟨readHex none none s.toList⟩

theorem contains_single (c d : Char) : (single c).contains d = (d == c) := by
  rw [Bool.eq_iff_iff]
  simp only [contains, containsCode, single, List.any_cons, List.any_nil, Bool.or_false,
    Bool.and_eq_true, decide_eq_true_eq, beq_iff_eq]
  constructor
  · intro h
    exact Char.ext (UInt32.toNat_inj.1 (Nat.le_antisymm h.2 h.1))
  · rintro rfl
    exact ⟨Nat.le_refl _, Nat.le_refl _⟩

end CharSet

end LineEditor
