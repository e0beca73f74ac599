import LineEditor.Regex.Program

/-! Matching runs all ways through a program at once, one position of the text after the other. The
ways are kept in order of preference and at most one is kept per instruction, so the time grows with
the text and the program but not with the number of ways. -/
namespace LineEditor.Regex

structure Place where
  offset : Nat
  before : Option Char
  rest : Text

namespace Place

def start (t : Text) : Place := ⟨0, none, t⟩

def advance (p : Place) : Nat → Place
  | 0 => p
  | n + 1 =>
      match p with
      | ⟨offset, _, c :: rest⟩ => advance ⟨offset + 1, some c, rest⟩ n
      | ⟨_, _, []⟩ => p

end Place

/-- Half-open, in characters from the start of the text. -/
structure Span where
  start : Nat
  stop : Nat
  deriving DecidableEq, Repr

structure Match where
  span : Span
  /-- Group `n` has the slots `2 n - 2` and `2 n - 1`. -/
  slots : Array (Option Nat)
  deriving Repr

def Match.group (m : Match) : Nat → Option Span
  | 0 => some m.span
  | n + 1 =>
      match m.slots.getD (2 * n) none, m.slots.getD (2 * n + 1) none with
      | some start, some stop => some ⟨start, stop⟩
      | _, _ => none

structure Thread where
  pc : Nat
  start : Nat
  slots : Array (Option Nat)

/-- The threads at one place that wait to read, best first, and the instructions already reached. -/
structure Front where
  reached : Array Bool
  threads : Array Thread

namespace Program

def emptyFront (p : Program) : Front := ⟨Array.replicate p.code.size false, #[]⟩

/-- Follows threads, best first, to all instructions that read or accept. An instruction that was
reached before belongs to a better thread. Each round takes a thread from the list and each
instruction adds at most two, once: `2 * code.size + 1` rounds suffice for one thread. -/
def follow (p : Program) (offset : Nat) (before after : Option Char) :
    Nat → List Thread → Front → Front
  | 0, _, front => front
  | _ + 1, [], front => front
  | fuel + 1, t :: more, front =>
      if front.reached.getD t.pc true then follow p offset before after fuel more front
      else
        let front := { front with reached := front.reached.setIfInBounds t.pc true }
        match p.code[t.pc]? with
        | some (.split first second) =>
            follow p offset before after fuel
              ({ t with pc := first } :: { t with pc := second } :: more) front
        | some (.look l next) =>
            if l.holds before after then
              follow p offset before after fuel ({ t with pc := next } :: more) front
            else follow p offset before after fuel more front
        | some (.save slot next) =>
            follow p offset before after fuel
              (⟨next, t.start, t.slots.setIfInBounds slot (some offset)⟩ :: more) front
        | some (.read _ _) | some .accept =>
            follow p offset before after fuel more { front with threads := front.threads.push t }
        | some .fail | none => follow p offset before after fuel more front

def enter (p : Program) (offset : Nat) (before after : Option Char) (t : Thread) (front : Front) :
    Front :=
  follow p offset before after (2 * p.code.size + 2) [t] front

/-- Lets the threads at a place read its character. A thread that accepts is the match so far, and
no worse thread is kept. -/
def readAll (p : Program) (offset : Nat) (c : Option Char) (after : Option Char) :
    List Thread → Front → Option Match → Front × Option Match
  | [], front, found => (front, found)
  | t :: more, front, found =>
      match p.code[t.pc]?, c with
      | some .accept, _ => (front, some ⟨⟨t.start, offset⟩, t.slots⟩)
      | some (.read s next), some d =>
          let front :=
            if s.contains d then p.enter (offset + 1) c after { t with pc := next } front else front
          readAll p offset c after more front found
      | _, _ => readAll p offset c after more front found

/-- Goes through the text. Until a match is found a new thread starts at every place, as the worst
of them, so that a match further left is preferred. -/
def scan (p : Program) : Nat → Option Char → Text → Front → Option Match → Option Match
  | offset, before, [], front, found =>
      let front := if found.isSome then front else
        p.enter offset before none ⟨p.start, offset, Array.replicate (2 * p.groups) none⟩ front
      (p.readAll offset none none front.threads.toList p.emptyFront found).2
  | offset, before, c :: rest, front, found =>
      let front := if found.isSome then front else
        p.enter offset before (some c) ⟨p.start, offset, Array.replicate (2 * p.groups) none⟩ front
      let (next, found) :=
        p.readAll offset (some c) rest.head? front.threads.toList p.emptyFront found
      if next.threads.isEmpty && found.isSome then found
      else scan p (offset + 1) (some c) rest next found

def find (p : Program) (place : Place) : Option Match :=
  p.scan place.offset place.before place.rest p.emptyFront none

/-- All matches from a place on, from left to right. Each is looked for where the last one ended; an
empty match right at that end does not count, and the search goes on one character further. Between
two advances there are at most two rounds. -/
def findAll (p : Program) : Nat → Place → Option Nat → List Match
  | 0, _, _ => []
  | fuel + 1, place, lastStop =>
      match p.find place with
      | none => []
      | some m =>
          if m.span.start = m.span.stop ∧ lastStop = some m.span.stop then
            match place.rest with
            | [] => []
            | _ => findAll p fuel (place.advance 1) lastStop
          else
            m :: findAll p fuel (place.advance (m.span.stop - place.offset)) (some m.span.stop)

end Program

end LineEditor.Regex
