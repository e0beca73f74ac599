import LineEditor.Proofs.Editor.Filing
import LineEditor.Proofs.Surroundings

/-! What a command prints over an output that takes every line. A failure is a question mark and
nothing else; it is remembered until the next one, so that it can be explained. -/
namespace LineEditor

theorem Printing.printedLines_eq {lines : List Text} {all : Bool} {xs : List Exchange}
    (h : Printing lines all xs) (taken : AllPrinted xs) : all = true ∧ printedLines xs = lines := by
  induction h with
  | done => exact ⟨rfl, rfl⟩
  | failed line => exact absurd List.mem_cons_self (taken line)
  | line line _ ih =>
      obtain ⟨rfl, rest⟩ := ih fun other member => taken other (List.mem_cons_of_mem _ member)
      exact ⟨rfl, congrArg (line :: ·) rest⟩

namespace Buffer

theorem numberFrom_eq (b : Buffer) (f : Nat → Text → Text) (n k : Nat)
    (last : k + n ≤ b.lineCount) :
    ((numberFrom (k + 1) ((b.lines.drop k).take n)).map fun (addr, line) => f addr line).map some =
      (List.range' (k + 1) n).map fun addr => (b.getLine addr).map (f addr) := by
  induction n generalizing k with
  | zero => simp [numberFrom]
  | succ n ih =>
      have here : k < b.lines.length := by
        have inside : k + (n + 1) ≤ b.lines.length := last
        omega
      have rest := ih (k + 1) (by omega)
      rw [List.drop_eq_getElem_cons here, List.take_succ_cons, List.range'_succ]
      simp only [numberFrom, List.map_cons, rest, getLine, List.getElem?_eq_getElem here,
        Option.map_some]

theorem linesIn_eq {b : Buffer} {start stop : Nat} (first : 1 ≤ start) (ordered : start ≤ stop)
    (last : stop ≤ b.lineCount) (f : Nat → Text → Text) :
    ((b.linesIn start stop).map fun (addr, line) => f addr line).map some =
      (List.range' start (stop + 1 - start)).map fun addr => (b.getLine addr).map (f addr) := by
  obtain ⟨k, rfl⟩ := Nat.exists_eq_add_of_le' first
  have bound : max (k + 1) 1 = k + 1 := by omega
  simp only [linesIn, bound, Nat.add_sub_cancel]
  exact b.numberFrom_eq f _ k (by omega)

end Buffer

namespace Editor

variable {e after : Editor} {line : Text} {r : Resolution} {xs : List Exchange} {reply : Reply}
  {files left : FileTree}

theorem printing_run (e : Editor) (lines : List Text) (result : Reply)
    {s : Surroundings} (takes : s.sink.Takes lines.length) :
    (e.printing lines (.done result)).run s =
      (result, { s with
        sink := ⟨s.sink.printed ++ lines, s.sink.room.map (· - lines.length)⟩ }) := by
  induction lines generalizing s with
  | nil =>
      obtain ⟨source, ⟨printed, room⟩, files⟩ := s
      simp [printing, Dialogue.run]
  | cons line lines ih =>
      obtain ⟨source, ⟨printed, room⟩, files⟩ := s
      rcases room with _ | _ | room
      · simp only [printing, Dialogue.run, Sink.print, if_true]
        rw [ih (Sink.takes_of_unlimited rfl _)]
        simp
      · exact absurd (takes 0 rfl) (by simp)
      · have fewer : lines.length ≤ room := Nat.le_of_succ_le_succ (takes (room + 1) rfl)
        simp only [printing, Dialogue.run, Sink.print, if_true]
        rw [ih (by simpa [Sink.Takes] using fewer)]
        simp

theorem printRange_run {mode : PrintMode} {i : Invocation} {s : Surroundings} {shown : List Text}
    (bare : i.isBare = true) (lines : e.document.buffer.isEmpty = false)
    (range : ((e.document.buffer.linesIn i.start i.stop).map fun (addr, line) =>
      mode.render addr line) = shown)
    (takes : s.sink.Takes shown.length) :
    (e.printRange mode i).run s = (⟨e.moveTo i.stop, .ok .proceed⟩, { s with
      sink := ⟨s.sink.printed ++ shown, s.sink.room.map (· - shown.length)⟩ }) := by
  rw [printRange, Editor.bare, if_pos bare, onLines, if_neg (by simp [lines]), proceed, range,
    printing_run _ _ _ takes]

inductive Shows (e : Editor) (r : Resolution) (after : Editor) (files : FileTree) :
    Verb → List Text → Prop where
  | print {mode : PrintMode} {shown : List Text}
      (range : shown.map some = (List.range' r.start (r.stop + 1 - r.start)).map fun addr =>
        (e.document.buffer.getLine addr).map (mode.render addr)) :
      Shows e r after files (.print mode) shown
  | load {guarded : Bool} {name : Text} {bytes : Text.Bytes}
      (named : r.invocation.filename = some name) (read : files.read name = .ok bytes) :
      Shows e r after files (.load guarded) [Text.decimal bytes.length]
  | save : Shows e r after files .save
      [Text.decimal (bytesOfLines e.document.buffer.lines).length]
  | help : Shows e r after files .help (e.lastError.toList.map (·.message.toList))
  | substitute {shown : List Text}
      (asked : Substitution.AsksToPrint r.rest →
        shown.map some = [after.document.buffer.getLine r.stop])
      (unasked : ¬ Substitution.AsksToPrint r.rest → shown = []) :
      Shows e r after files .substitute shown
  | insert {position : InsertPosition} : Shows e r after files (.insert position) []
  | delete : Shows e r after files .delete []
  | change : Shows e r after files .change []
  | quit {guarded : Bool} : Shows e r after files (.quit guarded) []

theorem Ending.lastError {i : Invocation} {verb : Verb} (ending : e.Ending i verb xs reply) :
    reply.editor.lastError = e.lastError := by
  cases ending with
  | @printed mode all => cases all <;> rfl
  | refused | warned | inserted | deleted | changed | loaded | saved | explained | left
  | substituted => rfl

/-- No verb fails once it has printed something. -/
theorem Ending.printedLines_of_error {i : Invocation} {verb : Verb} {error : EditorError}
    (ending : e.Ending i verb xs reply) (taken : AllPrinted xs)
    (failed : reply.result = .error error) : printedLines xs = [] := by
  cases ending with
  | refused vain => exact printedLines_of_isVain vain
  | warned | inserted | deleted | changed | left => rfl
  | printed _ _ printing | explained _ printing | substituted _ _ _ _ printing =>
      cases (told_error failed).1.symm.trans (printing.printedLines_eq taken).1
  | loaded | saved =>
      rw [(told_error failed).1] at taken
      exact absurd (List.mem_cons_of_mem _ List.mem_cons_self) (taken _)

theorem Ending.shows {verb : Verb} {outcome : Outcome}
    (ending : (e.resolved r).Ending r.invocation verb xs reply) (taken : AllPrinted xs)
    (filed : Filed xs files left) (range : r.Inside e.document.buffer)
    (ok : reply.result = .ok outcome) : e.Shows r reply.editor files verb (printedLines xs) := by
  have place (lines : e.document.buffer.isEmpty = false) :
      1 ≤ r.start ∧ r.stop ≤ e.document.buffer.lineCount := by
    have filled : e.document.buffer.lineCount ≠ 0 := by
      rw [ne_eq, ← Buffer.isEmpty_iff, lines]
      simp
    have first := (e.document.buffer.holds_iff _).mp range.start
    have last := (e.document.buffer.holds_iff _).mp range.stop
    omega
  cases ending with
  | refused | warned => cases ok
  | inserted => exact .insert
  | deleted => exact .delete
  | changed => exact .change
  | left => exact .quit
  | printed bare lines printing =>
      obtain ⟨rfl, shown⟩ := printing.printedLines_eq taken
      obtain ⟨first, last⟩ := place lines
      rw [shown]
      exact .print (Buffer.linesIn_eq first range.ordered last _)
  | @loaded guarded printed name loaded word named =>
      obtain ⟨bytes, read, same⟩ := of_bind_ok filed.load_ok
      cases same
      cases printed with
      | true => exact .load named read
      | false => exact absurd (List.mem_cons_of_mem _ List.mem_cons_self) (taken _)
  | @saved printed name count outcome word named =>
      cases printed with
      | false => exact absurd (List.mem_cons_of_mem _ List.mem_cons_self) (taken _)
      | true =>
          obtain ⟨rfl, -⟩ := filed.save_ok (by simp [Exchange.isPrint])
          exact .save
  | explained bare printing =>
      rw [(printing.printedLines_eq taken).2]
      exact .help
  | @substituted s own pattern all _ parsed lines compiled found printing =>
      obtain ⟨rfl, shown⟩ := printing.printedLines_eq taken
      have asks : s.autoPrint = true ↔ Substitution.AsksToPrint r.rest :=
        Substitution.autoPrint_iff parsed
      obtain ⟨first, last⟩ := place lines
      let b := ((e.resolved r).substituted s pattern r.invocation).document.buffer
      have count : b.lineCount = e.document.buffer.lineCount :=
        e.document.buffer.lineCount_mapRange ..
      obtain ⟨line, there⟩ : ∃ line, b.getLine r.stop = some line :=
        Buffer.getLine_isSome (Nat.le_trans first range.ordered) (by rwa [count])
      rw [shown]
      refine .substitute (fun asked => ?_) fun unasked => if_neg fun auto => unasked (asks.mp auto)
      rw [if_pos (asks.mpr asked)]
      exact (congrArg (fun found => found.toList.map some) there).trans
        (congrArg (fun found => [found]) there).symm

theorem tryExecute_lastError (goes : (e.tryExecute line).Goes xs reply) :
    reply.editor.lastError = e.lastError := by
  rcases tryExecute_cases goes with ⟨error, -, -, rfl⟩ | ⟨r, verb, raw, -, -, ending, rfl⟩
  · rfl
  · rw [settle_lastError]
    exact ending.lastError

theorem tryExecute_printedLines_of_error {error : EditorError}
    (goes : (e.tryExecute line).Goes xs reply) (taken : AllPrinted xs)
    (failed : reply.result = .error error) : printedLines xs = [] := by
  rcases tryExecute_cases goes with ⟨error, -, rfl, -⟩ | ⟨r, verb, raw, -, -, ending, rfl⟩
  · rfl
  · rw [settle_result] at failed
    exact ending.printedLines_of_error taken failed

section

variable {s : Surroundings}

theorem execute_run_of_ok {outcome : Outcome}
    (ok : ((e.tryExecute line).run s).1.result = .ok outcome) :
    (e.execute line).run s =
      ((((e.tryExecute line).run s).1.editor, outcome), ((e.tryExecute line).run s).2) := by
  rw [execute, Dialogue.run_bind, conclude, ok]
  rfl

theorem execute_run_of_error {error : EditorError} (room : s.sink.room = none)
    (failed : ((e.tryExecute line).run s).1.result = .error error) :
    ((e.execute line).run s).1.1.lastError = some error ∧
      ((e.execute line).run s).2.sink.printed =
        ((e.tryExecute line).run s).2.sink.printed ++ [failureMark] := by
  have room := (e.tryExecute line).run_room room
  rw [execute, Dialogue.run_bind, conclude, failed]
  simp [Dialogue.run_map, report, Dialogue.run, Sink.print, room]

/-- What the execution of a command line prints and remembers. -/
structure Tells (e : Editor) (line : Text) (s : Surroundings) : Prop where
  failed : ∀ error, ((e.tryExecute line).run s).1.result = .error error →
    ((e.execute line).run s).1.1.lastError = some error ∧
      ((e.execute line).run s).2.sink.printed = s.sink.printed ++ [failureMark]
  succeeded : ∀ outcome, ((e.tryExecute line).run s).1.result = .ok outcome →
    ((e.execute line).run s).1.1.lastError = e.lastError ∧
      ∃ r verb shown,
        resolve line e.document.buffer e.document.cursor e.lastPattern = .ok r ∧
        Verb.ofChar? r.verb = some verb ∧
        e.Shows r ((e.execute line).run s).1.1 s.files verb shown ∧
        ((e.execute line).run s).2.sink.printed = s.sink.printed ++ shown

theorem tells (line : Text) (inside : e.document.CursorInside) (room : s.sink.room = none) :
    e.Tells line s := by
  have goes := (e.tryExecute line).goes_exchanges s
  have taken := (e.tryExecute line).allPrinted_exchanges room
  have filed := (e.tryExecute line).filed_exchanges s
  have printed := (e.tryExecute line).run_printed s
  refine ⟨fun error failed => ?_, fun outcome ok => ?_⟩
  · obtain ⟨remembered, marked⟩ := execute_run_of_error room failed
    refine ⟨remembered, ?_⟩
    rw [marked, printed, tryExecute_printedLines_of_error goes taken failed, List.append_nil]
  · rw [execute_run_of_ok ok]
    refine ⟨tryExecute_lastError goes, ?_⟩
    rcases tryExecute_cases goes with ⟨error, -, -, same⟩ |
      ⟨r, verb, raw, resolution, known, ending, same⟩
    · rw [same] at ok
      cases ok
    · rw [same, settle_result] at ok
      have range : r.Inside e.document.buffer :=
        (resolve_meets ..).value r resolution (e.document.cursorInside_iff.mp inside)
      refine ⟨r, verb, _, resolution, known, ?_, printed⟩
      dsimp only
      rw [same, settle_of_ok e ok]
      exact ending.shows taken filed range ok

end

/-- Executions of command lines with any answers of the surroundings, and the results they came to,
the latest in front. -/
inductive Executions (start : Editor) : List (Except EditorError Outcome) → Editor → Prop where
  | start : Executions start [] start
  | execute {results : List (Except EditorError Outcome)} {e after : Editor} {line : Text}
      {xs ys : List Exchange} {reply : Reply} {outcome : Outcome}
      (executions : Executions start results e) (goes : (e.tryExecute line).Goes xs reply)
      (concluded : (conclude reply).Goes ys (after, outcome)) :
      Executions start (reply.result :: results) after

def failure? : Except EditorError Outcome → Option EditorError
  | .error error => some error
  | .ok _ => none

theorem Executions.lastError {start : Editor} {results : List (Except EditorError Outcome)}
    (executions : Executions start results e) :
    e.lastError = (results.findSome? failure?).or start.lastError := by
  induction executions with
  | start => rfl
  | @execute results e after line xs ys reply outcome _ goes concluded ih =>
      rw [List.findSome?_cons]
      rcases conclude_goes concluded with ⟨ok, -, rfl⟩ | ⟨error, failed, -, -, rfl⟩
      · rw [ok, tryExecute_lastError goes]
        exact ih
      · rw [failed]
        rfl

/-- Over an output that takes every line, a command that fails prints a question mark and is
remembered, and one that succeeds prints what it is to print. So `h` explains the latest failure. -/
theorem execute_output {start : Editor} {results : List (Except EditorError Outcome)}
    {s : Surroundings} (executions : Executions start results e) (inside : e.document.CursorInside)
    (room : s.sink.room = none) (line : Text) :
    e.Tells line s ∧
      ∀ r outcome, resolve line e.document.buffer e.document.cursor e.lastPattern = .ok r →
        r.verb = 'h' → ((e.tryExecute line).run s).1.result = .ok outcome →
        ((e.execute line).run s).2.sink.printed = s.sink.printed ++
          ((results.findSome? failure?).or start.lastError).toList.map (·.message.toList) := by
  have tells := tells (e := e) line inside room
  refine ⟨tells, fun r outcome resolution letter ok => ?_⟩
  obtain ⟨-, r', verb, shown, resolution', known, shows, printed⟩ := tells.succeeded outcome ok
  cases resolution.symm.trans resolution'
  rw [letter] at known
  cases known
  cases shows
  rw [printed, executions.lastError]

theorem execute_output_help :
    let start : Editor := ofDocument (.ofBuffer ⟨[['a'], ['b']]⟩)
    let e : Editor := { start with lastError := some .unknownCommand }
    let s : Surroundings := ⟨⟨[], false⟩, ⟨[], none⟩, .empty []⟩
    let results : List (Except EditorError Outcome) := [.ok .proceed, .error .unknownCommand]
    Executions start results e ∧ (e.document.CursorInside ∧ s.sink.room = none) ∧
      e.Tells [',', 'n'] s ∧
      ((e.execute [',', 'n']).run s).2.sink.printed = [['1', '\t', 'a'], ['2', '\t', 'b']] ∧
      ((e.execute ['h']).run s).2.sink.printed =
        s.sink.printed ++ [EditorError.unknownCommand.message.toList] := by
  intro start e s results
  have unknown : Executions start [.error .unknownCommand] e :=
    @Executions.execute start [] start e ['z'] _ _ ⟨start, .error .unknownCommand⟩ .proceed .start
      (.done _) (.print true (.done _))
  have executions : Executions start results e :=
    @Executions.execute start _ e e [',', 'n'] _ _ ⟨e, .ok .proceed⟩ .proceed unknown
      (.print true (.print true (.done _))) (.done _)
  have inside : e.document.CursorInside := by decide
  obtain ⟨tells, -⟩ := execute_output executions inside rfl [',', 'n'] (s := s)
  obtain ⟨-, explains⟩ := execute_output executions inside rfl ['h'] (s := s)
  exact ⟨executions, ⟨inside, rfl⟩, tells, by decide +kernel,
    explains ⟨2, 2, ['h'], 2, none⟩ .proceed rfl rfl rfl⟩

end Editor

end LineEditor
