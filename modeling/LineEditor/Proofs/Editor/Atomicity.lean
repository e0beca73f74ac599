import LineEditor.Proofs.Editor.Ending

/-! A command that fails has done nothing. Two failures are different: the warning of unwritten
changes, which is itself what the command does, and an output that fails under a command whose work
is done by then. -/
namespace LineEditor.Editor

theorem verb_of_guarded {c : Char} {verb : Verb} (known : Verb.ofChar? c = some verb)
    (guarded : verb = .load true ∨ verb = .quit true) : c = 'e' ∨ c = 'q' := by
  rcases guarded with rfl | rfl
  · exact .inl (Verb.letter_of_ofChar? known)
  · exact .inr (Verb.letter_of_ofChar? known)

/-- Unless the output failed or a warning was given, the editor and the files are as they were, and
nothing was printed. With a warning the changes are given up, and the addresses have moved the
current line and left their pattern. -/
theorem tryExecute_failure_atomic {e : Editor} {line : Text} {xs : List Exchange} {reply : Reply}
    {error : EditorError} {Files : Type} {files after : Files}
    (goes : (e.tryExecute line).Goes xs reply) (leaves : Leaves xs files after)
    (failed : reply.result = .error error) :
    (error ≠ .cannotWriteOutput → error ≠ .modified →
      reply.editor = e ∧ after = files ∧ ∀ x ∈ xs, x.onlyReads = true) ∧
    (error = .modified → ∃ r,
      resolve line e.document.buffer e.document.cursor e.lastPattern = .ok r ∧
      (r.verb = 'e' ∨ r.verb = 'q') ∧ e.document.modified = true ∧
      reply.editor =
        { document := { e.document with cursor := r.current, modified := false }
          lastPattern := r.pattern.or e.lastPattern
          lastError := e.lastError } ∧
      after = files ∧ xs = []) := by
  rcases tryExecute_cases goes with ⟨error, refusal, rfl, rfl⟩ |
    ⟨r, verb, raw, resolution, known, ending, rfl⟩
  · cases failed
    exact ⟨fun _ _ => ⟨rfl, leaves.eq_of_kept (by simp), by simp⟩,
      fun warning => absurd warning refusal.1⟩
  · rw [settle_result] at failed
    rcases ending.failed failed with rfl | ⟨refusal, rfl, reads⟩ |
      ⟨rfl, guarded, modified, rfl, rfl⟩
    · exact ⟨fun output => absurd rfl output, fun warning => nomatch warning⟩
    · have kept : after = files :=
        leaves.eq_of_kept fun x hx => Exchange.keepsFiles_of_onlyReads (reads x hx)
      rw [settle_resolved refusal.1]
      exact ⟨fun _ _ => ⟨rfl, kept, reads⟩, fun warning => absurd warning refusal.1⟩
    · refine ⟨fun _ warning => absurd rfl warning, fun _ => ?_⟩
      exact ⟨r, resolution, verb_of_guarded known guarded, modified, rfl,
        leaves.eq_of_kept (by simp), rfl⟩

theorem tryExecute_failure_atomic_broken_warned :
    let d : Document := ⟨⟨[['a'], ['b']]⟩, 2, true, none⟩
    let s : Surroundings := ⟨⟨[['x']], true⟩, ⟨[], none⟩, ⟨[], [([['f']], .file [120, 10])]⟩⟩
    let broken := ((ofDocument d).tryExecute ['1', 'c']).run s
    let warned := ((ofDocument d).tryExecute ['1', ';', 'e', ' ', 'f']).run s
    broken.1.result = .error .cannotReadInput ∧ broken.1.editor = ofDocument d ∧
      broken.2.files = s.files ∧ broken.2.source.lines = [] ∧
      warned.1.result = .error .modified ∧
      warned.1.editor = ofDocument { d with cursor := 1, modified := false } ∧
      warned.2.files = s.files := by
  intro d s broken warned
  obtain ⟨xs, goes, leaves⟩ := ((ofDocument d).tryExecute ['1', 'c']).goes_run s
  obtain ⟨ys, goes', leaves'⟩ := ((ofDocument d).tryExecute ['1', ';', 'e', ' ', 'f']).goes_run s
  have kept := (tryExecute_failure_atomic goes leaves rfl).1 (by decide) (by decide)
  obtain ⟨r, resolution, -, -, after, files, -⟩ :=
    (tryExecute_failure_atomic goes' leaves' rfl).2 rfl
  cases resolution
  exact ⟨rfl, kept.1, kept.2.1, rfl, rfl, after, files⟩

/-- Whether what a verb has done by the time it prints makes no difference to the document. -/
def ChangesNothing (e : Editor) (r : Resolution) (xs : List Exchange) : Verb → Prop
  | .load _ => ∀ name loaded, .load name (.ok loaded) ∈ xs →
      e.document.buffer.lines = loaded.lines ∧ e.document.modified = false ∧
        e.document.filename = some name
  | .save => e.document.modified = false ∧ e.document.filename ≠ none
  | .substitute => ∀ s own pattern, Substitution.parse r.rest = .ok s → s.compile = .ok own →
      own.or (r.pattern.or e.lastPattern) = some pattern →
      e.document.buffer.mapRange r.start r.stop (s.apply pattern) = e.document.buffer ∧
        e.document.modified = true
  | _ => True

theorem withDocument_eq_self_iff {e : Editor} {d : Document} :
    e.withDocument d = e ↔ d = e.document := by
  constructor
  · intro h
    exact congrArg Editor.document h
  · rintro rfl
    rfl

theorem ofLoaded_eq_iff (d : Document) (name : Text) (loaded : Loaded) :
    { Document.ofLoaded name loaded with cursor := d.cursor } = d ↔
      d.buffer.lines = loaded.lines ∧ d.modified = false ∧ d.filename = some name := by
  obtain ⟨⟨lines⟩, cursor, modified, filename⟩ := d
  simp only [Document.ofLoaded, Document.ofBuffer, Document.mk.injEq, Buffer.mk.injEq, true_and,
    eq_comm (a := lines), eq_comm (a := modified), eq_comm (a := filename)]

theorem saved_eq_iff (d : Document) (name : Text) :
    { d with filename := d.filename.or (some name), modified := false } = d ↔
      d.modified = false ∧ d.filename ≠ none := by
  obtain ⟨buffer, cursor, modified, filename⟩ := d
  simp only [Document.mk.injEq, true_and, eq_comm (a := false)]
  cases filename <;> simp

theorem rewritten_eq_iff (d : Document) (b : Buffer) :
    { d with buffer := b, modified := true } = d ↔ b = d.buffer ∧ d.modified = true := by
  obtain ⟨buffer, cursor, modified, filename⟩ := d
  simp only [Document.mk.injEq, true_and, and_true, eq_comm (a := true)]

theorem forall_load_mem_iff {P : Text → Loaded → Prop} {name line : Text} {loaded : Loaded}
    {printed : Bool} :
    (∀ name' loaded', .load name' (.ok loaded') ∈
        [Exchange.load name (.ok loaded), .print line printed] → P name' loaded') ↔
      P name loaded := by
  constructor
  · exact fun h => h _ _ List.mem_cons_self
  · intro h name' loaded' mem
    simp only [List.mem_cons, Exchange.load.injEq, Except.ok.injEq, reduceCtorEq,
      List.not_mem_nil, or_false] at mem
    rwa [mem.1, mem.2]

theorem settle_unprinted {e : Editor} {r : Resolution} {i : Invocation} {verb : Verb}
    {xs : List Exchange} {raw : Reply} (ending : (e.resolved r).Ending i verb xs raw)
    (failed : raw.result = .error .cannotWriteOutput) :
    (e.settle raw).editor =
      e.withDocument { raw.editor.document with cursor := e.document.cursor } := by
  cases ending with
  | refused reads refusal =>
      cases failed
      exact absurd rfl refusal.2
  | warned | inserted | deleted | changed | left => cases failed
  | printed | explained | loaded | saved | substituted =>
      obtain ⟨rfl, -⟩ := told_error failed
      rfl

section

variable {e : Editor} {r : Resolution} {verb : Verb} {xs : List Exchange} {raw : Reply}

theorem unprinted_eq_iff (ending : (e.resolved r).Ending r.invocation verb xs raw)
    (failed : raw.result = .error .cannotWriteOutput) :
    { raw.editor.document with cursor := e.document.cursor } = e.document ↔
      e.ChangesNothing r xs verb := by
  cases ending with
  | refused reads refusal =>
      cases failed
      exact absurd rfl refusal.2
  | warned | inserted | deleted | changed | left => cases failed
  | printed | explained =>
      obtain ⟨rfl, -⟩ := told_error failed
      exact iff_of_true rfl trivial
  | loaded word named allowed =>
      rw [ChangesNothing, forall_load_mem_iff]
      exact ofLoaded_eq_iff e.document _ _
  | saved word named => exact saved_eq_iff e.document _
  | @substituted s own pattern _ _ parsed lines compiled found =>
      refine (rewritten_eq_iff e.document _).trans ?_
      constructor
      · intro same s' own' pattern' parsed' compiled' found'
        cases parsed.symm.trans parsed'
        cases compiled.symm.trans compiled'
        cases found.symm.trans found'
        exact same
      · intro same
        exact same s own pattern parsed compiled found

theorem unprinted_cursorInside_iff (ending : (e.resolved r).Ending r.invocation verb xs raw)
    (failed : raw.result = .error .cannotWriteOutput) (inside : e.document.CursorInside) :
    Document.CursorInside { raw.editor.document with cursor := e.document.cursor } ↔
      ∀ name loaded, .load name (.ok loaded) ∈ xs →
        Buffer.holds ⟨loaded.lines⟩ e.document.cursor = true := by
  cases ending with
  | refused reads refusal =>
      cases failed
      exact absurd rfl refusal.2
  | warned | inserted | deleted | changed | left => cases failed
  | printed _ _ printing | explained _ printing =>
      obtain ⟨rfl, -⟩ := told_error failed
      exact iff_of_true inside fun _ _ mem => absurd mem (printing.load_notMem _ _)
  | loaded word named allowed =>
      rw [forall_load_mem_iff]
      exact Document.cursorInside_iff _
  | saved word named =>
      refine iff_of_true inside fun name loaded mem => ?_
      simp only [List.mem_cons, reduceCtorEq, List.not_mem_nil, or_false] at mem
  | @substituted s own pattern _ _ parsed lines compiled found printing =>
      have sameLines := e.document.buffer.lineCount_mapRange r.start r.stop (s.apply pattern)
      refine iff_of_true (inside.of_lineCount sameLines rfl) fun _ _ mem => ?_
      exact absurd mem (printing.load_notMem _ _)

end

/-- When the output fails the current line and the pattern are put back, and no more than that: all
is as before just when the work of the verb made no difference. A file that was loaded stays loaded,
and the current line need not be one of its lines. -/
theorem tryExecute_unprinted {e : Editor} {line : Text} {xs : List Exchange} {reply : Reply}
    (goes : (e.tryExecute line).Goes xs reply) (failed : reply.result = .error .cannotWriteOutput)
    (inside : e.document.CursorInside) :
    ∃ r verb, resolve line e.document.buffer e.document.cursor e.lastPattern = .ok r ∧
      Verb.ofChar? r.verb = some verb ∧
      reply.editor = e.withDocument { reply.editor.document with cursor := e.document.cursor } ∧
      (reply.editor = e ↔ e.ChangesNothing r xs verb) ∧
      (reply.editor.document.CursorInside ↔ ∀ name loaded, .load name (.ok loaded) ∈ xs →
        Buffer.holds ⟨loaded.lines⟩ e.document.cursor = true) := by
  rcases tryExecute_cases goes with ⟨error, refusal, rfl, rfl⟩ |
    ⟨r, verb, raw, resolution, known, ending, rfl⟩
  · cases failed
    exact absurd rfl refusal.2
  · have range : r.Inside e.document.buffer :=
      (resolve_meets ..).value r resolution (e.document.cursorInside_iff.mp inside)
    rw [settle_result] at failed
    rw [settle_unprinted ending failed]
    refine ⟨r, verb, resolution, known, rfl, ?_, ?_⟩
    · rw [withDocument_eq_self_iff]
      exact unprinted_eq_iff ending failed
    · exact unprinted_cursorInside_iff ending failed inside

/-- A longer document was current at its last line when a shorter one took its place. -/
theorem tryExecute_unprinted_load :
    let e : Editor := ofDocument (.ofBuffer ⟨[['a'], ['b'], ['c']]⟩)
    let loaded : Loaded := ⟨[['x']], 2⟩
    let reply : Reply := ⟨e.withDocument { Document.ofLoaded ['f'] loaded with cursor := 3 },
      .error .cannotWriteOutput⟩
    (e.tryExecute ['E', ' ', 'f']).Goes
        [.load ['f'] (.ok loaded), .print (Text.decimal 2) false] reply ∧
      e.document.CursorInside ∧ reply.editor ≠ e ∧ ¬ reply.editor.document.CursorInside := by
  intro e loaded reply
  have goes : (e.tryExecute ['E', ' ', 'f']).Goes
      [.load ['f'] (.ok loaded), .print (Text.decimal 2) false] reply :=
    .load _ (.print false (.done _))
  have inside : e.document.CursorInside := by decide
  obtain ⟨r, verb, resolution, known, -, same, holds⟩ := tryExecute_unprinted goes rfl inside
  cases resolution
  cases known
  refine ⟨goes, inside, fun h => ?_, fun h => ?_⟩
  · exact absurd (same.mp h ['f'] loaded List.mem_cons_self).1 (by decide)
  · exact absurd (holds.mp h ['f'] loaded List.mem_cons_self) (by decide)

/-- The same with an output that takes no line, and the file in a tree. -/
theorem tryExecute_not_restored :
    let e : Editor := ofDocument (.ofBuffer ⟨[['a'], ['b'], ['c']]⟩)
    let s : Surroundings := ⟨⟨[], false⟩, ⟨[], some 0⟩, ⟨[], [([['f']], .file [120, 10])]⟩⟩
    let reply := ((e.tryExecute ['E', ' ', 'f']).run s).1
    e.document.CursorInside ∧ reply.result = .error .cannotWriteOutput ∧
      reply.editor.document = ⟨⟨[['x']]⟩, 3, false, some ['f']⟩ ∧
      ¬ reply.editor.document.CursorInside :=
  ⟨by decide, rfl, rfl, by decide⟩

end LineEditor.Editor
