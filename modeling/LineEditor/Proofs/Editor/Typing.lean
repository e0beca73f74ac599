import LineEditor.Proofs.Surroundings
import LineEditor.Proofs.Editor.Cursor
import LineEditor.Proofs.Editor.Splice

/-! Which commands take typed lines, and what becomes of the lines. All other commands leave the
input alone, whether they succeed or fail. -/
namespace LineEditor.Editor

variable {e : Editor} {i : Invocation} {line : Text} {r : Resolution}

/-- The command is one of the three that are followed by typed lines: its addresses are good, nothing
stands behind its verb, and there is something to change. -/
structure Asks (e : Editor) (line : Text) (r : Resolution) : Prop where
  resolution : resolve line e.document.buffer e.document.cursor e.lastPattern = .ok r
  verb : r.verb = 'a' ∨ r.verb = 'i' ∨ r.verb = 'c' ∧ e.document.buffer.lines ≠ []
  bare : r.invocation.isBare = true

section

open Dialogue

theorem printing_silent {next : Dialogue Reply} (lines : List Text) (silent : next.Silent) :
    (e.printing lines next).Silent := by
  induction lines with
  | nil => exact silent
  | cons line lines ih =>
      intro printed
      cases printed with
      | true => exact ih
      | false => trivial

theorem bare_silent {command : Dialogue Reply} (silent : i.isBare = true → command.Silent) :
    (e.bare i command).Silent := by
  unfold bare
  split
  · exact silent ‹_›
  · trivial

theorem onLines_silent {command : Dialogue Reply}
    (silent : e.document.buffer.isEmpty = false → command.Silent) :
    (e.onLines command).Silent := by
  unfold onLines
  split
  · trivial
  · next lines => exact silent (by simpa using lines)

theorem adopt_silent (result : Except EditorError Document) : (e.adopt result).Silent := by
  cases result <;> trivial

theorem confirming_silent {command : Editor → Dialogue Reply} (silent : ∀ e, (command e).Silent) :
    (e.confirming command).Silent := by
  unfold confirming
  split
  · exact silent _
  · trivial

theorem reportCount_silent (outcome : Outcome) (moved : Except EditorError Nat × Document) :
    (e.reportCount outcome moved).Silent := by
  obtain ⟨error | count, d⟩ := moved
  · trivial
  · exact printing_silent _ trivial

theorem load_silent (d : Document) (name : Text) : (d.load name).Silent := by
  rintro (error | loaded) <;> trivial

theorem save_silent (d : Document) (name : Option Text) : (d.save name).Silent := by
  unfold Document.save
  split
  · trivial
  · rintro (error | count) <;> trivial

theorem loadFile_silent (guarded : Bool) : (e.loadFile guarded i).Silent := by
  unfold loadFile
  split
  · trivial
  · split
    · trivial
    · next name _ =>
      have load (e : Editor) : ((e.document.load name).bind (e.reportCount .proceed)).Silent :=
        (load_silent _ _).bind fun moved => reportCount_silent _ moved
      dsimp only
      split
      · exact confirming_silent load
      · exact load e

theorem saveFile_silent : (e.saveFile i).Silent := by
  have save (outcome : Outcome) :
      ((e.document.save i.filename).bind (e.reportCount outcome)).Silent :=
    (save_silent _ _).bind fun moved => reportCount_silent _ moved
  unfold saveFile
  dsimp only
  split
  · exact save _
  · split
    · exact save _
    · trivial

theorem substitute_silent : (e.substitute i).Silent := by
  unfold substitute
  split
  · trivial
  · refine onLines_silent fun _ => ?_
    split
    · trivial
    · split
      · trivial
      · rw [substituteWith_eq]
        exact printing_silent _ trivial

theorem run_silent {verb : Verb}
    (insert : ∀ position, verb = .insert position → i.isBare = false)
    (change : verb = .change → i.isBare = false ∨ e.document.buffer.isEmpty = true) :
    (e.run i verb).Silent := by
  cases verb with
  | print mode => exact bare_silent fun _ => onLines_silent fun _ => printing_silent _ trivial
  | insert position =>
      refine bare_silent fun bare => ?_
      rw [insert position rfl] at bare
      cases bare
  | delete => exact bare_silent fun _ => onLines_silent fun _ => adopt_silent _
  | change =>
      refine bare_silent fun bare => onLines_silent fun lines => ?_
      rw [bare, lines] at change
      simp at change
  | load guarded => exact loadFile_silent guarded
  | save => exact saveFile_silent
  | help => exact bare_silent fun _ => printing_silent _ trivial
  | quit guarded =>
      refine bare_silent fun _ => ?_
      dsimp only
      split
      · exact confirming_silent fun _ => trivial
      · trivial
  | substitute => exact substitute_silent

theorem insertBlock_readsOnce (position : InsertPosition) (bare : i.isBare = true) :
    (e.insertBlock position i).ReadsOnce := by
  unfold insertBlock Editor.bare
  rw [if_pos bare]
  refine ⟨_, rfl, fun block => ?_⟩
  cases block with
  | some block => exact adopt_silent _
  | none => trivial

theorem changeRange_readsOnce (bare : i.isBare = true)
    (lines : e.document.buffer.isEmpty = false) : (e.changeRange i).ReadsOnce := by
  unfold changeRange Editor.bare onLines
  rw [if_pos bare, if_neg (by simp [lines])]
  refine ⟨_, rfl, fun block => ?_⟩
  cases block with
  | some block => exact adopt_silent _
  | none => trivial

end

theorem letter_of_insert {c : Char} {position : InsertPosition}
    (known : Verb.ofChar? c = some (.insert position)) : c = 'a' ∨ c = 'i' := by
  cases position with
  | before => exact .inr (Verb.letter_of_ofChar? known)
  | after => exact .inl (Verb.letter_of_ofChar? known)

theorem tryExecute_silent (silent : ¬ ∃ r, e.Asks line r) : (e.tryExecute line).Silent := by
  unfold tryExecute
  split
  · trivial
  · next r resolution =>
    split
    · trivial
    · next verb known =>
      refine Dialogue.Silent.map (run_silent (fun position isInsert => ?_) fun isChange => ?_) _
      · subst isInsert
        refine Bool.eq_false_iff.mpr fun bare => silent ⟨r, resolution, ?_, bare⟩
        exact (letter_of_insert known).imp_right .inl
      · subst isChange
        cases bare : r.invocation.isBare with
        | false => exact .inl rfl
        | true =>
            refine .inr (eq_true_of_ne_false fun lines => silent ⟨r, resolution, ?_, bare⟩)
            exact .inr (.inr ⟨Verb.letter_of_ofChar? known, Buffer.isEmpty_eq_false_iff.mp lines⟩)

theorem tryExecute_readsOnce (asks : e.Asks line r) : (e.tryExecute line).ReadsOnce := by
  obtain ⟨resolution, verb, bare⟩ := asks
  have run (verb : Verb) (known : Verb.ofChar? r.verb = some verb)
      (once : ((e.resolved r).run r.invocation verb).ReadsOnce) : (e.tryExecute line).ReadsOnce := by
    rw [tryExecute_eq resolution known]
    exact once.map _
  rcases verb with letter | letter | ⟨letter, lines⟩
  · exact run (.insert .after) (by rw [letter]; rfl) (insertBlock_readsOnce _ bare)
  · exact run (.insert .before) (by rw [letter]; rfl) (insertBlock_readsOnce _ bare)
  · exact run .change (by rw [letter]; rfl)
      (changeRange_readsOnce bare (Buffer.isEmpty_eq_false_iff.mpr lines))

theorem report_silent (e : Editor) (error : EditorError) : (e.report error).Silent :=
  fun _ => trivial

theorem conclude_silent (reply : Reply) : (conclude reply).Silent := by
  unfold conclude
  split
  · trivial
  · exact (report_silent _ _).map _

theorem openStartupFile_silent (e : Editor) (name : Text) : (e.openStartupFile name).Silent := by
  refine (load_silent _ _).bind fun loaded => ?_
  obtain ⟨error | count, d⟩ := loaded
  · exact report_silent _ _
  · intro printed
    cases printed with
    | true => trivial
    | false => exact report_silent _ _

theorem execute_source (e : Editor) (line : Text) (s : Surroundings) :
    ((e.execute line).run s).2.source = ((e.tryExecute line).run s).2.source := by
  rw [execute, Dialogue.run_bind]
  exact (conclude_silent _).run_source _

theorem execute_document (e : Editor) (line : Text) (s : Surroundings) :
    ((e.execute line).run s).1.1.document = ((e.tryExecute line).run s).1.editor.document := by
  rw [execute, Dialogue.run_bind]
  obtain ⟨xs, goes, -⟩ :=
    (conclude ((e.tryExecute line).run s).1).goes_run ((e.tryExecute line).run s).2
  exact conclude_document goes

def Inserts (r : Resolution) (old block new : List Text) : Prop :=
  if r.verb = 'c' then new = old.take (r.start - 1) ++ block ++ old.drop r.stop
  else ∃ n, new = old.take n ++ block ++ old.drop n

section

variable {s : Surroundings} {block : List Text} {rest : Source}

/-- A complete block is inserted. The one failure left is that of a change of line 0. -/
theorem Asks.inserts (asks : e.Asks line r) (received : s.source.readBlock = (some block, rest))
    (place : r.verb = 'c' → r.start ≠ 0) :
    ∃ d : Document, ((e.tryExecute line).run s).1 = ⟨(e.resolved r).withDocument d, .ok .proceed⟩ ∧
      Inserts r e.document.buffer.lines block d.buffer.lines := by
  obtain ⟨resolution, verb, bare⟩ := asks
  have ordered := resolve_ordered resolution
  rcases verb with letter | letter | ⟨letter, lines⟩
  · have known : Verb.ofChar? r.verb = some (.insert .after) := by rw [letter]; rfl
    have work : (e.resolved r).document.insert .after r.stop block = .ok
        ((e.resolved r).document.afterInsert r.stop (e.document.buffer.spliceAt r.stop block)
          ⟨r.stop + 1, r.stop + 1 + block.length⟩) := by
      unfold Document.insert Buffer.insertAfter
      dsimp only
      rw [if_pos (show r.stop ≤ (e.resolved r).document.buffer.lineCount from ordered.2)]
      rfl
    refine ⟨_, by rw [tryExecute_run_ok resolution known (insertBlock_run bare received work)], ?_⟩
    rw [Inserts, if_neg (by rw [letter]; decide), Document.afterInsert_buffer]
    exact ⟨r.stop, rfl⟩
  · have known : Verb.ofChar? r.verb = some (.insert .before) := by rw [letter]; rfl
    have work := @Document.insert_before_at (e.resolved r).document r.stop _ rfl block
    refine ⟨_, by rw [tryExecute_run_ok resolution known (insertBlock_run bare received work)], ?_⟩
    rw [Inserts, if_neg (by rw [letter]; decide)]
    exact ⟨_, rfl⟩
  · have known : Verb.ofChar? r.verb = some .change := by rw [letter]; rfl
    have first : 1 ≤ r.start := Nat.one_le_iff_ne_zero.mpr (place letter)
    have work := @Document.change_eq (e.resolved r).document _ _ first ordered.1 ordered.2 block
    have nonempty := Buffer.isEmpty_eq_false_iff.mpr lines
    refine ⟨_, by rw [tryExecute_run_ok resolution known
      (changeRange_run bare nonempty received work)], ?_⟩
    rw [Inserts, if_pos letter]
    rfl

theorem Asks.kept (asks : e.Asks line r) (letter : r.verb = 'c') (place : r.start = 0) :
    ((e.tryExecute line).run s).1.editor.document.buffer = e.document.buffer := by
  obtain ⟨xs, goes, -⟩ := (e.tryExecute line).goes_run s
  rcases tryExecute_cases goes with ⟨error, refusal, rfl, same⟩ |
    ⟨r', verb, raw, resolution, known, ending, same⟩
  · rw [same]
  · cases asks.resolution.symm.trans resolution
    rw [letter] at known
    cases known
    rw [same, settle_buffer]
    cases ending with
    | refused | warned => rfl
    | changed bare out work =>
        unfold Document.delete Buffer.delete at out
        split at out
        · next range => exact absurd place (Nat.one_le_iff_ne_zero.mp range.1)
        · cases out

end

end LineEditor.Editor
