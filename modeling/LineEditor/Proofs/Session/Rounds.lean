import LineEditor.Session
import LineEditor.Proofs.Surroundings

/-! A session as a row of rounds. In each of them a command line is read and executed, and the next
round begins with what it has left. -/
namespace LineEditor

theorem Source.nextLine_of_lines {s : Source} {line : Text} {lines : List Text}
    (h : s.lines = line :: lines) : s.nextLine = (.line line, ⟨lines, s.fails⟩) := by
  cases s
  cases h
  rfl

/-- A command of a session: the editor and the surroundings in front of its line, the line, the lines
that are taken for it, and what it comes to and leaves. -/
structure Round where
  editor : Editor
  surroundings : Surroundings
  command : Text
  typed : List Text
  outcome : Outcome
  printed : List Text
  after : Editor
  left : Surroundings

namespace Round

def behind (r : Round) : Source := ⟨r.typed ++ r.left.source.lines, r.surroundings.source.fails⟩

def opened (r : Round) : Surroundings := { r.surroundings with source := r.behind }

structure Runs (r : Round) : Prop where
  lines : r.surroundings.source.lines = r.command :: (r.typed ++ r.left.source.lines)
  executed : (r.editor.execute r.command).turn r.opened = ((r.after, r.outcome), r.printed, r.left)

theorem Runs.run_eq {r : Round} (runs : r.Runs) :
    ((r.editor.execute r.command).run r.opened).1 = (r.after, r.outcome) ∧
      ((r.editor.execute r.command).run r.opened).2.collect = (r.printed, r.left) :=
  Prod.mk.inj runs.executed

def step (r : Round) : SessionStep := ⟨some r.command, r.printed, r.after⟩

end Round

inductive Rounds : Editor → Surroundings → List Round → Editor → Surroundings → Prop where
  | nil (e : Editor) (s : Surroundings) : Rounds e s [] e s
  | cons {r : Round} {rounds : List Round} {e : Editor} {s : Surroundings} (runs : r.Runs)
      (more : Rounds r.after r.left rounds e s) :
      Rounds r.editor r.surroundings (r :: rounds) e s

namespace Rounds

variable {e last : Editor} {s left : Surroundings} {rounds : List Round}

theorem preserved {P : Editor → Surroundings → Prop} (run : Rounds e s rounds last left)
    (step : ∀ r : Round, r.Runs → P r.editor r.surroundings → P r.after r.left) (start : P e s) :
    (∀ r ∈ rounds, P r.editor r.surroundings) ∧ P last left := by
  induction run with
  | nil => exact ⟨by simp, start⟩
  | cons runs _ ih =>
      obtain ⟨inner, final⟩ := ih (step _ runs start)
      exact ⟨List.forall_mem_cons.mpr ⟨start, inner⟩, final⟩

theorem runs (run : Rounds e s rounds last left) : ∀ r ∈ rounds, r.Runs := by
  induction run with
  | nil => simp
  | cons runs _ ih => exact List.forall_mem_cons.mpr ⟨runs, ih⟩

theorem lines_eq (run : Rounds e s rounds last left) :
    s.source.lines = rounds.flatMap (fun r => r.command :: r.typed) ++ left.source.lines := by
  induction run with
  | nil => rfl
  | cons runs _ ih =>
      rw [runs.lines, ih, List.flatMap_cons, List.cons_append, List.cons_append, List.append_assoc]

end Rounds

inductive Ends (rounds : List Round) (e : Editor) (s : Surroundings) :
    List SessionStep → SessionEnd → Surroundings → Prop where
  | quit {earlier : List Round} {r : Round} (split : rounds = earlier ++ [r])
      (proceeds : ∀ r ∈ earlier, r.outcome = .proceed) (quits : r.outcome = .quit) :
      Ends rounds e s (rounds.map Round.step) .quit s
  | endOfInput (proceeds : ∀ r ∈ rounds, r.outcome = .proceed) (source : s.source = ⟨[], false⟩) :
      Ends rounds e s (rounds.map Round.step) .endOfInput s
  | inputError {printed : List Text} {after : Editor} {left : Surroundings}
      (proceeds : ∀ r ∈ rounds, r.outcome = .proceed) (source : s.source = ⟨[], true⟩)
      (reported : (e.report .cannotReadInput).turn s = (after, printed, left)) :
      Ends rounds e s (rounds.map Round.step ++ [⟨none, printed, after⟩]) .inputError left

theorem Ends.cons {rounds : List Round} {e : Editor} {s left : Surroundings}
    {steps : List SessionStep} {ending : SessionEnd} {r : Round} (proceeds : r.outcome = .proceed)
    (ends : Ends rounds e s steps ending left) :
    Ends (r :: rounds) e s (r.step :: steps) ending left := by
  cases ends with
  | @quit earlier last split others quits =>
      have extended : r :: rounds = (r :: earlier) ++ [last] := by rw [split]; rfl
      exact .quit extended (List.forall_mem_cons.mpr ⟨proceeds, others⟩) quits
  | endOfInput others source =>
      exact .endOfInput (List.forall_mem_cons.mpr ⟨proceeds, others⟩) source
  | inputError others source reported =>
      exact .inputError (List.forall_mem_cons.mpr ⟨proceeds, others⟩) source reported

theorem exists_round (e : Editor) (sink : Sink) (files : FileTree) (line : Text) (lines : List Text)
    (fails : Bool) :
    ∃ r : Round, r.Runs ∧ r.editor = e ∧ r.surroundings = ⟨⟨line :: lines, fails⟩, sink, files⟩ ∧
      r.left.source.lines.length ≤ lines.length := by
  obtain ⟨⟨typed, taken⟩, -⟩ := (e.execute line).run_source ⟨⟨lines, fails⟩, sink, files⟩
  let t := (e.execute line).turn ⟨⟨lines, fails⟩, sink, files⟩
  let r : Round :=
    ⟨e, ⟨⟨line :: lines, fails⟩, sink, files⟩, line, typed, t.1.2, t.2.1, t.1.1, t.2.2⟩
  have same : typed ++ r.left.source.lines = lines := taken
  have behind : r.behind = ⟨lines, fails⟩ := by
    rw [Round.behind, same]
  refine ⟨r, ⟨?_, ?_⟩, rfl, rfl, ?_⟩
  · rw [same]
  · rw [Round.opened, behind]
  · rw [← same, List.length_append]
    exact Nat.le_add_left _ _

theorem sessionRounds_succ {r : Round} (runs : r.Runs) (n : Nat) :
    sessionRounds (n + 1) r.editor r.surroundings =
      match r.outcome with
      | .quit => ([r.step], .quit, r.left)
      | .proceed =>
          let (steps, ending, left) := sessionRounds n r.after r.left
          (r.step :: steps, ending, left) := by
  have next : r.surroundings.source.nextLine = (.line r.command, r.behind) := by
    exact Source.nextLine_of_lines runs.lines
  have executed := runs.executed
  unfold Round.opened at executed
  simp only [sessionRounds, next, executed]
  cases r.outcome <;> rfl

/-- The rounds that are allowed for are enough, since each takes its command line. -/
theorem sessionRounds_rounds (n : Nat) (e : Editor) (s : Surroundings)
    (enough : s.source.lines.length < n) :
    ∃ rounds last left, Rounds e s rounds last left ∧
      Ends rounds last left (sessionRounds n e s).1 (sessionRounds n e s).2.1
        (sessionRounds n e s).2.2 := by
  induction n generalizing e s with
  | zero => omega
  | succ n ih =>
      obtain ⟨⟨lines, fails⟩, sink, files⟩ := s
      cases lines with
      | nil =>
          refine ⟨[], e, _, .nil e _, ?_⟩
          cases fails with
          | false => exact .endOfInput (by simp) rfl
          | true => exact .inputError (by simp) rfl rfl
      | cons line lines =>
          obtain ⟨r, runs, rfl, same, shorter⟩ := exists_round e sink files line lines fails
          rw [← same, sessionRounds_succ runs]
          cases outcome : r.outcome with
          | quit =>
              refine ⟨[r], r.after, r.left, .cons runs (.nil _ _), ?_⟩
              exact .quit (List.nil_append [r]).symm (by simp) outcome
          | proceed =>
              rw [List.length_cons] at enough
              obtain ⟨rounds, last, left, run, ends⟩ := ih r.after r.left (by omega)
              exact ⟨r :: rounds, last, left, .cons runs run, ends.cons outcome⟩

theorem session_rounds (e : Editor) (s : Surroundings) :
    ∃ rounds last left, Rounds e s rounds last left ∧
      Ends rounds last left (session e s).1 (session e s).2.1 (session e s).2.2 :=
  sessionRounds_rounds _ e s (Nat.lt_succ_self _)

/-- The states of a session: those between its rounds, and the one in which reading the next command
line has failed. -/
inductive Reaches (e : Editor) (s : Surroundings) : Editor → Surroundings → Prop where
  | rounds {rounds : List Round} {last : Editor} {left : Surroundings}
      (run : Rounds e s rounds last left) : Reaches e s last left
  | inputError {rounds : List Round} {last : Editor} {left : Surroundings}
      (run : Rounds e s rounds last left) (source : left.source = ⟨[], true⟩) :
      Reaches e s ((last.report .cannotReadInput).turn left).1
        ((last.report .cannotReadInput).turn left).2.2

theorem Reaches.preserved {P : Editor → Surroundings → Prop} {e last : Editor}
    {s left : Surroundings} (reached : Reaches e s last left)
    (step : ∀ r : Round, r.Runs → P r.editor r.surroundings → P r.after r.left)
    (report : ∀ e s, P e s → P ((e.report .cannotReadInput).turn s).1
      ((e.report .cannotReadInput).turn s).2.2)
    (start : P e s) : P last left := by
  cases reached with
  | rounds run => exact (run.preserved step start).2
  | inputError run source => exact report _ _ (run.preserved step start).2

theorem Reaches.cons {r : Round} {e : Editor} {s : Surroundings} (runs : r.Runs)
    (reached : Reaches r.after r.left e s) : Reaches r.editor r.surroundings e s := by
  cases reached with
  | rounds run => exact .rounds (.cons runs run)
  | inputError run source => exact .inputError (.cons runs run) source

theorem Rounds.reaches {e last : Editor} {s left : Surroundings} {rounds : List Round}
    (run : Rounds e s rounds last left) : ∀ r ∈ rounds, Reaches e s r.after r.left := by
  induction run with
  | nil => simp
  | cons runs _ ih =>
      refine List.forall_mem_cons.mpr ⟨.rounds (.cons runs (.nil _ _)), fun r member => ?_⟩
      exact .cons runs (ih r member)

/-- Every editor that a session shows is that of a state of the session. -/
theorem session_reaches (e : Editor) (s : Surroundings) :
    ∀ step ∈ (session e s).1, ∃ left, Reaches e s step.editor left := by
  obtain ⟨rounds, last, left, run, ends⟩ := session_rounds e s
  have shown : ∀ step ∈ rounds.map Round.step, ∃ left, Reaches e s step.editor left := by
    intro step member
    obtain ⟨r, present, rfl⟩ := List.mem_map.mp member
    exact ⟨_, run.reaches r present⟩
  generalize session e s = all at ends ⊢
  obtain ⟨steps, ending, rest⟩ := all
  cases ends with
  | quit | endOfInput => exact shown
  | inputError _ source reported =>
      intro step member
      rcases List.mem_append.mp member with member | member
      · exact shown step member
      · have reached := Reaches.inputError run source
        rw [reported] at reached
        rw [List.mem_singleton.mp member]
        exact ⟨_, reached⟩

end LineEditor
