import LineEditor.Editor.Execution
import LineEditor.Surroundings

/-! A session reads command lines and runs them until one of them quits or there are no more. The
lines typed for a command come from the same input. -/
namespace LineEditor

inductive SessionEnd where
  | quit
  | endOfInput
  | inputError
  deriving DecidableEq, Repr

structure SessionStep where
  command : Option Text
  printed : List Text
  editor : Editor

def Surroundings.collect (s : Surroundings) : List Text × Surroundings :=
  (s.sink.printed, { s with sink := { s.sink with printed := [] } })

def Dialogue.turn {α : Type} (d : Dialogue α) (s : Surroundings) : α × List Text × Surroundings :=
  let (a, s) := d.run s
  (a, s.collect)

/-- Every command takes a line of the input, so as many rounds as lines and one for its end suffice.
-/
def sessionRounds : Nat → Editor → Surroundings → List SessionStep × SessionEnd × Surroundings
  | 0, _, s => ([], .endOfInput, s)
  | rounds + 1, e, s =>
      let (next, source) := s.source.nextLine
      let s := { s with source }
      match next with
      | .ended => ([], .endOfInput, s)
      | .failed =>
          let (e, printed, s) := (e.report .cannotReadInput).turn s
          ([⟨none, printed, e⟩], .inputError, s)
      | .line line =>
          let ((e, outcome), printed, s) := (e.execute line).turn s
          let step : SessionStep := ⟨some line, printed, e⟩
          match outcome with
          | .quit => ([step], .quit, s)
          | .proceed =>
              let (steps, ending, s) := sessionRounds rounds e s
              (step :: steps, ending, s)

def session (e : Editor) (s : Surroundings) : List SessionStep × SessionEnd × Surroundings :=
  sessionRounds (s.source.lines.length + 1) e s

end LineEditor
