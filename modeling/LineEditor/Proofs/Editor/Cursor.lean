import LineEditor.Proofs.Editor.Ending

/-! In every session the current line is a line of the document. Loading a file over an output that
fails is left out: it leaves the current line of a document that is no longer there. -/
namespace LineEditor.Editor

variable {e : Editor} {i : Invocation} {line : Text} {xs : List Exchange} {reply : Reply}

theorem Ending.cursorInside {verb : Verb} (ending : e.Ending i verb xs reply)
    (inside : e.document.CursorInside) (stop : e.document.buffer.holds i.stop = true) :
    reply.editor.document.CursorInside := by
  cases ending with
  | refused | explained | left => exact inside
  | warned | saved => exact inside.of_lineCount rfl rfl
  | @printed mode all =>
      cases all with
      | true => exact (Document.cursorInside_iff _).mpr stop
      | false => exact inside
  | inserted bare work => exact (e.document.insert_meets ..).value _ work
  | deleted bare work => exact (e.document.delete_meets ..).value _ work
  | @changed _ _ between _ bare out work => exact (between.insert_meets ..).value _ work
  | loaded => exact Document.cursorInside_ofLoaded _ _
  | @substituted s own r =>
      have moved : (e.moveTo i.stop).document.CursorInside := (Document.cursorInside_iff _).mpr stop
      exact moved.of_lineCount (e.document.buffer.lineCount_mapRange ..) rfl

theorem Ending.lineCount_of_error {verb : Verb} {error : EditorError}
    (ending : e.Ending i verb xs reply) (failed : reply.result = .error error)
    (told : error = .cannotWriteOutput → ∀ guarded, verb ≠ .load guarded) :
    reply.editor.document.buffer.lineCount = e.document.buffer.lineCount := by
  cases ending with
  | refused | warned | saved | explained => rfl
  | @printed mode all => cases all <;> rfl
  | inserted | deleted | changed | left => cases failed
  | loaded => exact absurd rfl (told (told_error failed).2 _)
  | substituted => exact e.document.buffer.lineCount_mapRange ..

theorem verb_of_load {c : Char} {guarded : Bool} (known : Verb.ofChar? c = some (.load guarded)) :
    c = 'e' ∨ c = 'E' := by
  cases guarded with
  | true => exact .inl (Verb.letter_of_ofChar? known)
  | false => exact .inr (Verb.letter_of_ofChar? known)

/-- The command loads a file, and the output has failed. -/
def LoadsUntold (e : Editor) (line : Text) (reply : Reply) : Prop :=
  reply.result = .error .cannotWriteOutput ∧
    ∃ r, resolve line e.document.buffer e.document.cursor e.lastPattern = .ok r ∧
      (r.verb = 'e' ∨ r.verb = 'E')

theorem tryExecute_cursorInside (goes : (e.tryExecute line).Goes xs reply)
    (told : ¬ e.LoadsUntold line reply) (inside : e.document.CursorInside) :
    reply.editor.document.CursorInside := by
  rcases tryExecute_cases goes with ⟨error, refusal, rfl, rfl⟩ |
    ⟨r, verb, raw, resolution, known, ending, rfl⟩
  · exact inside
  · have range : r.Inside e.document.buffer :=
      (resolve_meets ..).value r resolution (e.document.cursorInside_iff.mp inside)
    have placed : (e.resolved r).document.CursorInside :=
      (Document.cursorInside_iff _).mpr range.current
    have after : raw.editor.document.CursorInside :=
      ending.cursorInside placed range.stop
    obtain ⟨editor, error | outcome⟩ := raw
    · by_cases warning : error = .modified
      · subst warning
        exact after
      · have same : editor.document.buffer.lineCount = e.document.buffer.lineCount := by
          refine ending.lineCount_of_error rfl fun output guarded loads => ?_
          subst output loads
          exact told ⟨rfl, r, resolution, verb_of_load known⟩
        rw [settle_error warning]
        exact inside.of_lineCount same rfl
    · exact after

theorem report_goes {error : EditorError} {after : Editor}
    (goes : (e.report error).Goes xs after) :
    (∃ printed, xs = [.print failureMark printed]) ∧
      after = { e with lastError := some error } := by
  obtain _ | _ | ⟨printed, ⟨⟩⟩ := goes
  exact ⟨⟨printed, rfl⟩, rfl⟩

theorem conclude_goes {after : Editor} {outcome : Outcome}
    (goes : (conclude reply).Goes xs (after, outcome)) :
    (reply.result = .ok outcome ∧ xs = [] ∧ after = reply.editor) ∨
      ∃ error, reply.result = .error error ∧ outcome = .proceed ∧
        (∃ printed, xs = [.print failureMark printed]) ∧
        after = { reply.editor with lastError := some error } := by
  unfold conclude at goes
  split at goes
  · next ok =>
    obtain ⟨⟩ := goes
    exact .inl ⟨ok, rfl, rfl⟩
  · next error failed =>
    obtain ⟨told, reported, same⟩ := goes.of_map
    cases same
    exact .inr ⟨error, failed, rfl, report_goes reported⟩

theorem conclude_document {after : Editor} {outcome : Outcome}
    (goes : (conclude reply).Goes xs (after, outcome)) :
    after.document = reply.editor.document := by
  rcases conclude_goes goes with ⟨-, -, rfl⟩ | ⟨error, -, -, -, rfl⟩ <;> rfl

theorem openStartupFile_goes {name : Text} {after : Editor}
    (goes : (e.openStartupFile name).Goes xs after) :
    ∃ answer ys, xs = .load name answer :: ys ∧
      (∀ y ∈ ys, y.isPrint = true) ∧
      after.lastPattern = e.lastPattern ∧
      after.document = match answer with
        | .ok loaded => .ofLoaded name loaded
        | .error _ => { e.document with filename := some name } := by
  obtain _ | _ | _ | ⟨loaded, goes⟩ := goes
  cases loaded with
  | ok loaded =>
      obtain _ | _ | ⟨printed, goes⟩ := goes
      cases printed with
      | true =>
          obtain ⟨⟩ := goes
          exact ⟨_, _, rfl, by simp [Exchange.isPrint], rfl, rfl⟩
      | false =>
          obtain ⟨⟨marked, rfl⟩, rfl⟩ := report_goes goes
          exact ⟨_, _, rfl, by simp [Exchange.isPrint], rfl, rfl⟩
  | error error =>
      obtain ⟨⟨marked, rfl⟩, rfl⟩ := report_goes goes
      exact ⟨_, _, rfl, by simp [Exchange.isPrint], rfl, rfl⟩

theorem openStartupFile_cases {name : Text} {after : Editor}
    (goes : (e.openStartupFile name).Goes xs after) :
    (∃ loaded, .load name (.ok loaded) ∈ xs ∧ after.document = .ofLoaded name loaded) ∨
      after.document = { e.document with filename := some name } := by
  obtain ⟨answer, ys, rfl, -, -, document⟩ := openStartupFile_goes goes
  cases answer with
  | ok loaded => exact .inl ⟨loaded, List.mem_cons_self, document⟩
  | error error => exact .inr document

theorem openStartupFile_cursorInside {name : Text} {after : Editor}
    (goes : (e.openStartupFile name).Goes xs after) (inside : e.document.CursorInside) :
    after.document.CursorInside := by
  rcases openStartupFile_cases goes with ⟨loaded, -, same⟩ | same
  · rw [same]
    exact Document.cursorInside_ofLoaded name loaded
  · rw [same]
    exact inside.of_lineCount rfl rfl

/-- What one call can make of an editor. Any line may be typed and any file named, and whatever is
read, printed, loaded or saved may fail, except that an output must not fail a loading. -/
inductive Call (e : Editor) : Editor → Prop where
  | tryExecute {line : Text} {xs : List Exchange} {reply : Reply}
      (goes : (e.tryExecute line).Goes xs reply) (told : ¬ e.LoadsUntold line reply) :
      Call e reply.editor
  | execute {line : Text} {xs : List Exchange} {after : Editor} {outcome : Outcome}
      (goes : (e.execute line).Goes xs (after, outcome))
      (told : ∀ ys reply, ys <+: xs → (e.tryExecute line).Goes ys reply →
        ¬ e.LoadsUntold line reply) :
      Call e after
  | openStartupFile {name : Text} {xs : List Exchange} {after : Editor}
      (goes : (e.openStartupFile name).Goes xs after) : Call e after

theorem Call.cursorInside {after : Editor} (call : e.Call after)
    (inside : e.document.CursorInside) : after.document.CursorInside := by
  cases call with
  | tryExecute goes told => exact tryExecute_cursorInside goes told inside
  | execute goes told =>
      obtain ⟨ys, reply, zs, rfl, first, rest⟩ := goes.of_bind
      rw [conclude_document rest]
      exact tryExecute_cursorInside first (told ys reply (List.prefix_append ys zs) first) inside
  | openStartupFile goes => exact openStartupFile_cursorInside goes inside

inductive Run (start : Editor) : Editor → Prop where
  | start : Run start start
  | call {e after : Editor} (run : Run start e) (call : e.Call after) : Run start after

theorem run_cursorInside {start : Editor}
    (fresh : start = .empty ∨ ∃ b, start = ofDocument (.ofBuffer b)) (run : Run start e) :
    e.document.CursorInside := by
  induction run with
  | start =>
      rcases fresh with rfl | ⟨b, rfl⟩
      · exact Document.cursorInside_ofBuffer .empty
      · exact Document.cursorInside_ofBuffer b
  | call _ call ih => exact call.cursorInside ih

theorem run_cursorInside_unprinted :
    let loaded : Loaded := ⟨[['x'], ['y']], 4⟩
    let after : Editor := ⟨.ofLoaded ['f'] loaded, none, some .cannotWriteOutput⟩
    Run (ofDocument (.ofBuffer ⟨[['a'], ['b'], ['c']]⟩)) after ∧ after.document.CursorInside := by
  intro loaded after
  let start : Editor := ofDocument (.ofBuffer ⟨[['a'], ['b'], ['c']]⟩)
  let short : Document := ⟨⟨[['c']]⟩, 1, true, none⟩
  let warned : Editor := ofDocument { short with modified := false }
  have deletes : start.Call (ofDocument short) :=
    @Call.tryExecute start ['1', ';', '2', 'd'] [] ⟨ofDocument short, .ok .proceed⟩ (.done _)
      fun h => nomatch h.1
  have warns : (ofDocument short).Call warned :=
    @Call.tryExecute (ofDocument short) ['e', ' ', 'g'] [] ⟨warned, .error .modified⟩ (.done _)
      fun h => nomatch h.1
  have fails : warned.Call { warned with lastError := some .invalidAddress } := by
    refine @Call.execute warned ['2', 'p'] _ _ .proceed (.print false (.done _)) ?_
    rintro ys reply - - ⟨-, r, resolution, -⟩
    cases resolution
  have loads : Call { warned with lastError := some .invalidAddress } after :=
    .openStartupFile (.load (.ok loaded) (.print false (.print false (.done _))))
  have run : Run start after := (((Run.start.call deletes).call warns).call fails).call loads
  exact ⟨run, run_cursorInside (.inr ⟨_, rfl⟩) run⟩

end LineEditor.Editor
