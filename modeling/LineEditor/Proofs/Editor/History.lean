import LineEditor.Proofs.Editor.Cursor

/-! Histories of calls, and what is lost with a document that is given up. A document that does not
count as changed holds the lines that were last loaded or saved, or else a warning was given and no
line has changed since. -/
namespace LineEditor

def lastStored (xs : List Exchange) : Option (List Text) := xs.reverse.findSome? Exchange.stored?

theorem lastStored_append (xs ys : List Exchange) :
    lastStored (xs ++ ys) = (lastStored ys).or (lastStored xs) := by
  simp [lastStored, List.findSome?_append]

theorem lastStored_eq_none_iff (xs : List Exchange) :
    lastStored xs = none ↔ ∀ x ∈ xs, x.stored? = none := by
  simp [lastStored]

theorem lastStored_of_isPrint {xs : List Exchange} (prints : ∀ x ∈ xs, x.isPrint = true) :
    lastStored xs = none :=
  (lastStored_eq_none_iff xs).mpr fun x member => Exchange.stored?_of_isPrint (prints x member)

namespace Editor

variable {e after : Editor} {i : Invocation} {line : Text} {xs : List Exchange} {reply : Reply}

/-- A command that leaves no unwritten changes has loaded or saved the lines that it leaves, or it
has left them as they were. In the second case it gave a warning, or there were no changes before. -/
theorem Ending.unmodified {verb : Verb} (ending : e.Ending i verb xs reply)
    (unmodified : reply.editor.document.modified = false) :
    lastStored xs = some reply.editor.document.buffer.lines ∨
      lastStored xs = none ∧ reply.editor.document.buffer = e.document.buffer ∧
        (reply.result = .error .modified ∨ e.document.modified = false) := by
  cases ending with
  | refused vain =>
      refine .inr ⟨?_, rfl, .inr unmodified⟩
      exact (lastStored_eq_none_iff _).mpr fun x hx => Exchange.stored?_of_isVain (vain x hx)
  | warned => exact .inr ⟨rfl, rfl, .inl rfl⟩
  | @printed mode all _ _ _ printing =>
      cases all <;> exact .inr ⟨lastStored_of_isPrint printing.isPrint, rfl, .inr unmodified⟩
  | explained _ printing => exact .inr ⟨lastStored_of_isPrint printing.isPrint, rfl, .inr unmodified⟩
  | inserted bare work =>
      obtain ⟨same, before⟩ := Document.insert_unmodified work unmodified
      exact .inr ⟨rfl, same, .inr before⟩
  | deleted bare work =>
      cases (Document.delete_modified work).symm.trans unmodified
  | changed bare out work =>
      obtain ⟨-, before⟩ := Document.insert_unmodified work unmodified
      cases (Document.delete_modified out).symm.trans before
  | loaded | saved => exact .inl rfl
  | left => exact .inr ⟨rfl, rfl, .inr unmodified⟩
  | substituted => cases unmodified

inductive Task where
  | command (line : Text)
  | startupFile (name : Text)

/-- A call with any answers of the surroundings: what was asked, the exchanges on the way, what the
command came to, and the editor that is left. The failure of a command may be reported or not. -/
inductive Step (e : Editor) :
    Task → List Exchange → Except EditorError Outcome → Editor → Prop where
  | tryExecute {line : Text} {xs : List Exchange} {reply : Reply}
      (goes : (e.tryExecute line).Goes xs reply) :
      Step e (.command line) xs reply.result reply.editor
  | execute {line : Text} {xs ys : List Exchange} {reply : Reply} {after : Editor}
      {outcome : Outcome} (goes : (e.tryExecute line).Goes xs reply)
      (concluded : (conclude reply).Goes ys (after, outcome)) :
      Step e (.command line) (xs ++ ys) reply.result after
  | openStartupFile {name : Text} {xs : List Exchange} {after : Editor}
      (goes : (e.openStartupFile name).Goes xs after) :
      Step e (.startupFile name) xs (.ok .proceed) after

theorem Step.of_command {result : Except EditorError Outcome}
    (step : e.Step (.command line) xs result after) :
    ∃ ys zs reply, xs = ys ++ zs ∧ (∀ z ∈ zs, z.isPrint = true) ∧
      (e.tryExecute line).Goes ys reply ∧ result = reply.result ∧
      after.document = reply.editor.document ∧ after.lastPattern = reply.editor.lastPattern := by
  cases step with
  | tryExecute goes => exact ⟨xs, [], _, (List.append_nil xs).symm, by simp, goes, rfl, rfl, rfl⟩
  | execute goes concluded =>
      refine ⟨_, _, _, rfl, ?_, goes, rfl, ?_⟩
      · rcases conclude_goes concluded with ⟨-, rfl, -⟩ | ⟨error, -, -, ⟨printed, rfl⟩, -⟩
        · simp
        · simp [Exchange.isPrint]
      · rcases conclude_goes concluded with ⟨-, -, rfl⟩ | ⟨error, -, -, -, rfl⟩
        · exact ⟨rfl, rfl⟩
        · exact ⟨rfl, rfl⟩

theorem step_of_execute {outcome : Outcome} (goes : (e.execute line).Goes xs (after, outcome)) :
    ∃ result, e.Step (.command line) xs result after ∧
      (outcome = .quit ↔ result = .ok .quit) := by
  obtain ⟨ys, reply, zs, rfl, first, rest⟩ := goes.of_bind
  refine ⟨reply.result, .execute first rest, ?_⟩
  rcases conclude_goes rest with ⟨ok, -, -⟩ | ⟨error, failed, rfl, -, -⟩
  · rw [ok, Except.ok.injEq]
  · simp [failed]

theorem tryExecute_unmodified (goes : (e.tryExecute line).Goes xs reply)
    (unmodified : reply.editor.document.modified = false) :
    lastStored xs = some reply.editor.document.buffer.lines ∨
      lastStored xs = none ∧ reply.editor.document.buffer = e.document.buffer ∧
        (reply.result = .error .modified ∨ e.document.modified = false) := by
  rcases tryExecute_cases goes with ⟨error, refusal, rfl, rfl⟩ |
    ⟨r, verb, raw, resolution, known, ending, rfl⟩
  · exact .inr ⟨rfl, rfl, .inr unmodified⟩
  · rw [settle_modified] at unmodified
    rw [settle_buffer, settle_result]
    exact ending.unmodified unmodified

theorem Step.unmodified {task : Task} {result : Except EditorError Outcome}
    (step : e.Step task xs result after) (unmodified : after.document.modified = false) :
    lastStored xs = some after.document.buffer.lines ∨
      lastStored xs = none ∧ after.document.buffer = e.document.buffer ∧
        (result = .error .modified ∨ e.document.modified = false) := by
  cases task with
  | command line =>
      obtain ⟨ys, zs, reply, rfl, prints, goes, rfl, document, -⟩ := step.of_command
      rw [document] at unmodified ⊢
      rw [lastStored_append, lastStored_of_isPrint prints, Option.none_or]
      exact tryExecute_unmodified goes unmodified
  | startupFile name =>
      cases step with
      | openStartupFile goes =>
          obtain ⟨answer, ys, rfl, prints, -, document⟩ := openStartupFile_goes goes
          rw [document] at unmodified ⊢
          rw [← List.singleton_append, lastStored_append, lastStored_of_isPrint prints,
            Option.none_or]
          cases answer with
          | ok loaded => exact .inl rfl
          | error => exact .inr ⟨rfl, rfl, .inr unmodified⟩

structure Event where
  before : Editor
  task : Task
  exchanges : List Exchange
  result : Except EditorError Outcome
  after : Editor

inductive History (start : Editor) : List Event → Editor → Prop where
  | start : History start [] start
  | step {events : List Event} {e after : Editor} {task : Task} {xs : List Exchange}
      {result : Except EditorError Outcome} (history : History start events e)
      (step : e.Step task xs result after) :
      History start (⟨e, task, xs, result, after⟩ :: events) after

def Event.ofRun (e : Editor) (line : Text) (s : Surroundings) : Event :=
  ⟨e, .command line, (e.tryExecute line).exchanges s, ((e.tryExecute line).run s).1.result,
    ((e.tryExecute line).run s).1.editor⟩

theorem History.run {start : Editor} {events : List Event} (history : History start events e)
    (line : Text) (s : Surroundings) :
    History start (Event.ofRun e line s :: events) (Event.ofRun e line s).after :=
  history.step (.tryExecute ((e.tryExecute line).goes_exchanges s))

/-- The lines that were last loaded or saved; at the beginning, those that are there. -/
def savedLines (start : Editor) : List Event → List Text
  | [] => start.document.buffer.lines
  | event :: earlier => (lastStored event.exchanges).getD (savedLines start earlier)

/-- A call gave the warning of unwritten changes, and no call behind it has changed a line. -/
def Warned (events : List Event) : Prop :=
  ∃ later warning earlier, events = later ++ warning :: earlier ∧
    warning.result = .error .modified ∧
    ∀ event ∈ later, event.after.document.buffer = event.before.document.buffer

theorem Warned.step {event : Event} {events : List Event} (warned : Warned events)
    (same : event.after.document.buffer = event.before.document.buffer) :
    Warned (event :: events) := by
  obtain ⟨later, warning, earlier, rfl, given, kept⟩ := warned
  refine ⟨event :: later, warning, earlier, rfl, given, ?_⟩
  rintro other (_ | ⟨_, member⟩)
  · exact same
  · exact kept other member

/-- A document that has no unwritten changes was saved as it is, or its loss was warned of. -/
theorem History.unmodified {start : Editor} {events : List Event} (history : History start events e)
    (unmodified : e.document.modified = false) :
    e.document.buffer.lines = savedLines start events ∨ Warned events := by
  induction history with
  | start => exact .inl rfl
  | step history step ih =>
      rcases step.unmodified unmodified with stored | ⟨nothing, same, warning | before⟩
      · exact .inl (by rw [savedLines, stored, Option.getD_some])
      · exact .inr ⟨[], _, _, rfl, warning, by simp⟩
      · rw [savedLines, nothing, Option.getD_none, same]
        exact (ih before).imp_right fun warned => warned.step same

def GivesUp (e : Editor) (line : Text) (xs : List Exchange) (result : Except EditorError Outcome) :
    Prop :=
  ∃ r, resolve line e.document.buffer e.document.cursor e.lastPattern = .ok r ∧
    (r.verb = 'q' ∧ result = .ok .quit ∨
      r.verb = 'e' ∧ ∃ name loaded, .load name (.ok loaded) ∈ xs)

theorem Ending.unmodified_of_quit (ending : e.Ending i (.quit true) xs reply)
    (quits : reply.result = .ok .quit) : e.document.modified = false := by
  cases ending with
  | refused | warned => cases quits
  | left bare allowed => exact allowed rfl

theorem Ending.unmodified_of_load (ending : e.Ending i (.load true) xs reply) {name : Text}
    {loaded : Loaded} (loads : .load name (.ok loaded) ∈ xs) : e.document.modified = false := by
  cases ending with
  | refused vain => cases vain _ loads
  | warned => cases loads
  | loaded word named allowed => exact allowed rfl

theorem tryExecute_givesUp (goes : (e.tryExecute line).Goes xs reply)
    (givesUp : e.GivesUp line xs reply.result) : e.document.modified = false := by
  obtain ⟨r, resolution, givesUp⟩ := givesUp
  rcases tryExecute_cases goes with ⟨error, refusal, rfl, rfl⟩ |
    ⟨r', verb, raw, resolution', known, ending, rfl⟩
  · rcases givesUp with ⟨-, quits⟩ | ⟨-, name, loaded, loads⟩
    · cases quits
    · cases loads
  · cases resolution.symm.trans resolution'
    rw [settle_result] at givesUp
    rcases givesUp with ⟨isQuit, quits⟩ | ⟨isLoad, name, loaded, loads⟩
    · rw [isQuit] at known
      cases known
      exact ending.unmodified_of_quit quits
    · rw [isLoad] at known
      cases known
      exact ending.unmodified_of_load loads

theorem Step.givesUp {result : Except EditorError Outcome}
    (step : e.Step (.command line) xs result after) (givesUp : e.GivesUp line xs result) :
    e.document.modified = false := by
  obtain ⟨ys, zs, reply, rfl, prints, goes, rfl, -, -⟩ := step.of_command
  refine tryExecute_givesUp goes ?_
  obtain ⟨r, resolution, quits | ⟨isLoad, name, loaded, loads⟩⟩ := givesUp
  · exact ⟨r, resolution, .inl quits⟩
  · have inside := (List.mem_append.mp loads).resolve_right fun printed => nomatch prints _ printed
    exact ⟨r, resolution, .inr ⟨isLoad, name, loaded, inside⟩⟩

/-- When a document is given up, its lines are those that were last loaded or saved, or a warning
was given and no line has changed since. -/
theorem history_givesUp {start : Editor} {events : List Event}
    {result : Except EditorError Outcome} (history : History start events e)
    (step : e.Step (.command line) xs result after) (givesUp : e.GivesUp line xs result) :
    e.document.buffer.lines = savedLines start events ∨ Warned events :=
  history.unmodified (step.givesUp givesUp)

/-- A line is typed and the session ended by the second `q`; the first one was answered with a
warning, which could not be printed, and only the current line was moved behind it. -/
theorem history_givesUp_warned :
    let start : Editor := ofDocument (.ofBuffer ⟨[['a']]⟩)
    let typed : Editor := ofDocument ⟨⟨[['a'], ['b']]⟩, 2, true, none⟩
    let warned : Editor := ⟨⟨⟨[['a'], ['b']]⟩, 2, false, none⟩, none, some .modified⟩
    let moved : Editor := warned.moveTo 1
    let events : List Event :=
      [⟨warned, .command ['1', 'p'], [.print ['a'] true], .ok .proceed, moved⟩,
        ⟨typed, .command ['q'], [.print ['?'] false], .error .modified, warned⟩,
        ⟨start, .command ['a'], [.readBlock (some [['b']])], .ok .proceed, typed⟩]
    History start events moved ∧ moved.Step (.command ['q']) [] (.ok .quit) moved ∧
      moved.GivesUp ['q'] [] (.ok .quit) ∧
      moved.document.buffer.lines ≠ savedLines start events ∧ Warned events := by
  intro start typed warned moved events
  have types : start.Step (.command ['a']) [.readBlock (some [['b']])] (.ok .proceed) typed :=
    @Step.tryExecute start ['a'] _ ⟨typed, .ok .proceed⟩ (.readBlock _ (.done _))
  have warns : typed.Step (.command ['q']) [.print ['?'] false] (.error .modified) warned :=
    @Step.execute typed ['q'] [] _ ⟨{ warned with lastError := none }, .error .modified⟩ _ .proceed
      (.done _) (.print false (.done _))
  have moves : warned.Step (.command ['1', 'p']) [.print ['a'] true] (.ok .proceed) moved :=
    @Step.tryExecute warned ['1', 'p'] _ ⟨moved, .ok .proceed⟩ (.print true (.done _))
  have quits : moved.Step (.command ['q']) [] (.ok .quit) moved :=
    @Step.tryExecute moved ['q'] _ ⟨moved, .ok .quit⟩ (.done _)
  have history : History start events moved := ((History.start.step types).step warns).step moves
  have givesUp : moved.GivesUp ['q'] [] (.ok .quit) := ⟨_, rfl, .inl ⟨rfl, rfl⟩⟩
  have unsaved : moved.document.buffer.lines ≠ savedLines start events := by decide
  exact ⟨history, quits, givesUp, unsaved,
    (history_givesUp history quits givesUp).resolve_left unsaved⟩

end Editor

end LineEditor
