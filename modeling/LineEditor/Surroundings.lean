import LineEditor.Dialogue

/-! What a command talks to: the lines that are typed, the lines that are printed, and the files. -/
namespace LineEditor

/-- The lines still to be read. Behind the last one the input either ends or fails. -/
structure Source where
  lines : List Text
  fails : Bool
  deriving DecidableEq, Repr

inductive NextLine where
  | line (t : Text)
  | ended
  | failed
  deriving DecidableEq, Repr

namespace Source

/-- The lines of a stream of bytes. A failure loses the line that it cuts short. -/
def ofBytes (bytes : Text.Bytes) (fails : Bool) : Source :=
  ⟨linesOfBytes (if fails then finishedLines bytes else bytes), fails⟩

def nextLine : Source → NextLine × Source
  | ⟨line :: lines, fails⟩ => (.line line, ⟨lines, fails⟩)
  | ⟨[], fails⟩ => (if fails then .failed else .ended, ⟨[], fails⟩)

def terminator : Text := ['.']

def takeBlock (fails : Bool) : List Text → Option (List Text) × List Text
  | [] => (if fails then none else some [], [])
  | line :: lines =>
      if line = terminator then (some [], lines)
      else
        let (block, rest) := takeBlock fails lines
        (block.map (line :: ·), rest)

def readBlock (s : Source) : Option (List Text) × Source :=
  let (block, rest) := takeBlock s.fails s.lines
  (block, { s with lines := rest })

end Source

/-- The lines printed so far, and how many more can be printed, if there is a limit. -/
structure Sink where
  printed : List Text
  room : Option Nat
  deriving DecidableEq, Repr

def Sink.print (s : Sink) (line : Text) : Bool × Sink :=
  match s.room with
  | none => (true, { s with printed := s.printed ++ [line] })
  | some 0 => (false, s)
  | some (n + 1) => (true, ⟨s.printed ++ [line], some n⟩)

structure Surroundings where
  source : Source
  sink : Sink
  files : FileTree
  deriving DecidableEq, Repr

def Dialogue.run {α : Type} : Dialogue α → Surroundings → α × Surroundings
  | done a, s => (a, s)
  | readBlock next, s =>
      let (block, source) := s.source.readBlock
      (next block).run { s with source }
  | print line next, s =>
      let (printed, sink) := s.sink.print line
      (next printed).run { s with sink }
  | load name next, s => (next (s.files.load name)).run s
  | save name lines next, s =>
      match s.files.save name lines with
      | .ok (files, count) => (next (.ok count)).run { s with files }
      | .error e => (next (.error e)).run s

namespace Dialogue

variable {α β : Type}

theorem run_bind (d : Dialogue α) (f : α → Dialogue β) (s : Surroundings) :
    (d.bind f).run s = (f (d.run s).1).run (d.run s).2 := by
  induction d generalizing s with
  | done a => rfl
  | readBlock next ih => simp only [bind, run, ih]
  | print line next ih => simp only [bind, run, ih]
  | load name next ih => simp only [bind, run, ih]
  | save name lines next ih =>
      simp only [bind, run]
      split <;> simp only [ih]

theorem run_map (d : Dialogue α) (f : α → β) (s : Surroundings) :
    (d.map f).run s = (f (d.run s).1, (d.run s).2) := by
  simp only [map, run_bind]
  rfl

end Dialogue

end LineEditor
