import LineEditor.Editor.Execution
import LineEditor.Proofs.Document
import LineEditor.Proofs.Editor.LineLoop
import LineEditor.Proofs.Exchange
import LineEditor.Proofs.Substitution

/-! Everything a command can come to. A verb refuses before it has changed anything, or it warns of
unwritten changes, or it does its work; what it prints may fail at any line. -/
namespace LineEditor

def Verb.letter : Verb → Char
  | .print .plain => 'p'
  | .print .numbered => 'n'
  | .print .unambiguous => 'l'
  | .insert .before => 'i'
  | .insert .after => 'a'
  | .delete => 'd'
  | .change => 'c'
  | .load guarded => if guarded then 'e' else 'E'
  | .save => 'w'
  | .help => 'h'
  | .quit guarded => if guarded then 'q' else 'Q'
  | .substitute => 's'

theorem Verb.letter_of_ofChar? {c : Char} {verb : Verb} (known : ofChar? c = some verb) :
    c = verb.letter := by
  unfold ofChar? at known
  split at known <;> cases known <;> rfl

inductive Printing : List Text → Bool → List Exchange → Prop where
  | done : Printing [] true []
  | failed (line : Text) (lines : List Text) : Printing (line :: lines) false [.print line false]
  | line {lines : List Text} {all : Bool} {xs : List Exchange} (line : Text)
      (rest : Printing lines all xs) : Printing (line :: lines) all (.print line true :: xs)

theorem Printing.isPrint {lines : List Text} {all : Bool} {xs : List Exchange}
    (h : Printing lines all xs) : ∀ x ∈ xs, x.isPrint = true := by
  induction h with
  | done => simp
  | failed line lines => simp [Exchange.isPrint]
  | line line _ ih => exact List.forall_mem_cons.mpr ⟨rfl, ih⟩

theorem Printing.load_notMem {lines : List Text} {all : Bool} {xs : List Exchange}
    (h : Printing lines all xs) (name : Text) (loaded : Except FileError Loaded) :
    .load name loaded ∉ xs := fun member => nomatch h.isPrint _ member

theorem Printing.exists_failed {lines : List Text} {xs : List Exchange}
    (h : Printing lines false xs) : ∃ line, .print line false ∈ xs := by
  induction lines generalizing xs with
  | nil => cases h
  | cons first lines ih =>
      cases h with
      | failed => exact ⟨first, List.mem_cons_self⟩
      | line _ rest =>
          obtain ⟨line, member⟩ := ih rest
          exact ⟨line, List.mem_cons_of_mem _ member⟩

def told (all : Bool) (outcome : Outcome) : Except EditorError Outcome :=
  if all then .ok outcome else .error .cannotWriteOutput

theorem told_error {all : Bool} {outcome : Outcome} {error : EditorError}
    (h : told all outcome = .error error) : all = false ∧ error = .cannotWriteOutput := by
  cases all with
  | true => cases h
  | false =>
      cases h
      exact ⟨rfl, rfl⟩

namespace Editor

/-- How a verb may end, with the exchanges on the way. -/
inductive Ending (e : Editor) (i : Invocation) : Verb → List Exchange → Reply → Prop where
  | refused {verb : Verb} {xs : List Exchange} {error : EditorError}
      (vain : ∀ x ∈ xs, x.isVain = true) (refusal : error.IsRefusal) :
      Ending e i verb xs ⟨e, .error error⟩
  | warned {verb : Verb} (guarded : verb = .load true ∨ verb = .quit true)
      (modified : e.document.modified = true) :
      Ending e i verb [] ⟨e.withDocument { e.document with modified := false }, .error .modified⟩
  | printed {mode : PrintMode} {all : Bool} {xs : List Exchange} (bare : i.isBare = true)
      (lines : e.document.buffer.isEmpty = false)
      (printing : Printing ((e.document.buffer.linesIn i.start i.stop).map fun (addr, line) =>
        mode.render addr line) all xs) :
      Ending e i (.print mode) xs ⟨if all then e.moveTo i.stop else e, told all .proceed⟩
  | inserted {position : InsertPosition} {block : List Text} {d : Document}
      (bare : i.isBare = true) (work : e.document.insert position i.stop block = .ok d) :
      Ending e i (.insert position) [.readBlock (some block)] ⟨e.withDocument d, .ok .proceed⟩
  | deleted {d : Document} {removed : List Text} (bare : i.isBare = true)
      (work : e.document.delete i.start i.stop = .ok (d, removed)) :
      Ending e i .delete [] ⟨e.withDocument d, .ok .proceed⟩
  | changed {block removed : List Text} {between d : Document} (bare : i.isBare = true)
      (out : e.document.delete i.start i.stop = .ok (between, removed))
      (work : between.insert .before i.start block = .ok d) :
      Ending e i .change [.readBlock (some block)] ⟨e.withDocument d, .ok .proceed⟩
  | loaded {guarded printed : Bool} {name : Text} {loaded : Loaded}
      (word : i.word = [i.verb]) (named : i.filename = some name)
      (allowed : guarded = true → e.document.modified = false) :
      Ending e i (.load guarded)
        [.load name (.ok loaded), .print (Text.decimal loaded.byteLength) printed]
        ⟨e.withDocument (.ofLoaded name loaded), told printed .proceed⟩
  | saved {printed : Bool} {name : Text} {count : Nat} {outcome : Outcome}
      (word : i.word = ['w'] ∧ outcome = .proceed ∨ i.word = ['w', 'q'] ∧ outcome = .quit)
      (named : i.filename.or e.document.filename = some name) :
      Ending e i .save
        [.save name e.document.buffer.lines (.ok count), .print (Text.decimal count) printed]
        ⟨e.withDocument { e.document with
          filename := e.document.filename.or (some name), modified := false }, told printed outcome⟩
  | explained {all : Bool} {xs : List Exchange} (bare : i.isBare = true)
      (printing : Printing (e.lastError.toList.map (·.message.toList)) all xs) :
      Ending e i .help xs ⟨e, told all .proceed⟩
  | left {guarded : Bool} (bare : i.isBare = true)
      (allowed : guarded = true → e.document.modified = false) :
      Ending e i (.quit guarded) [] ⟨e, .ok .quit⟩
  | substituted {s : Substitution} {own : Option Regex} {r : Regex} {all : Bool}
      {xs : List Exchange} (parsed : Substitution.parse i.text = .ok s)
      (lines : e.document.buffer.isEmpty = false) (compiled : s.compile = .ok own)
      (pattern : own.or e.lastPattern = some r)
      (printing : Printing (if s.autoPrint
        then ((e.substituted s r i).document.buffer.getLine i.stop).toList else []) all xs) :
      Ending e i .substitute xs ⟨e.substituted s r i, told all .proceed⟩

variable {e : Editor} {i : Invocation} {xs : List Exchange} {reply : Reply}

theorem goes_printing {lines : List Text} {result : Reply}
    (h : (e.printing lines (.done result)).Goes xs reply) :
    ∃ all, Printing lines all xs ∧
      reply = if all then result else ⟨e, .error .cannotWriteOutput⟩ := by
  induction lines generalizing xs with
  | nil =>
      obtain ⟨⟩ := h
      exact ⟨true, .done, rfl⟩
  | cons line lines ih =>
      obtain _ | _ | ⟨printed, h⟩ := h
      cases printed with
      | false =>
          obtain ⟨⟩ := h
          exact ⟨false, .failed line lines, rfl⟩
      | true =>
          obtain ⟨all, printing, rfl⟩ := ih h
          exact ⟨all, .line line printing, rfl⟩

theorem ending_refuse {verb : Verb} {error : EditorError} (h : (e.refuse error).Goes xs reply)
    (refusal : error.IsRefusal) : e.Ending i verb xs reply := by
  obtain ⟨⟩ := h
  exact .refused (by simp) refusal

theorem ending_bare {verb : Verb} {command : Dialogue Reply}
    (h : (e.bare i command).Goes xs reply)
    (work : i.isBare = true → command.Goes xs reply → e.Ending i verb xs reply) :
    e.Ending i verb xs reply := by
  unfold bare at h
  split at h
  · exact work ‹_› h
  · exact ending_refuse h (by decide)

theorem ending_onLines {verb : Verb} {command : Dialogue Reply}
    (h : (e.onLines command).Goes xs reply)
    (work : e.document.buffer.isEmpty = false → command.Goes xs reply →
      e.Ending i verb xs reply) :
    e.Ending i verb xs reply := by
  unfold onLines at h
  split at h
  · exact ending_refuse h (by decide)
  · next lines => exact work (by simpa using lines) h

theorem ending_readBlock {verb : Verb} {work : List Text → Dialogue Reply}
    (h : (Dialogue.readBlock fun
      | some block => work block
      | none => e.refuse .cannotReadInput).Goes xs reply)
    (read : ∀ block ys, xs = .readBlock (some block) :: ys → (work block).Goes ys reply →
      e.Ending i verb xs reply) :
    e.Ending i verb xs reply := by
  obtain _ | ⟨block, h⟩ := h
  cases block with
  | none =>
      obtain ⟨⟩ := h
      exact .refused (by simp [Exchange.isVain]) (by decide)
  | some block => exact read block _ rfl h

theorem printRange_ending {mode : PrintMode} (h : (e.printRange mode i).Goes xs reply) :
    e.Ending i (.print mode) xs reply := by
  refine ending_bare h fun bare h => ending_onLines h fun lines h => ?_
  obtain ⟨all, printing, rfl⟩ := goes_printing h
  cases all with
  | true => exact .printed bare lines printing
  | false => exact .printed bare lines printing

theorem insertBlock_ending {position : InsertPosition}
    (h : (e.insertBlock position i).Goes xs reply) :
    e.Ending i (.insert position) xs reply := by
  refine ending_bare h fun bare h => ending_readBlock h fun block ys hxs rest => ?_
  subst hxs
  cases work : e.document.insert position i.stop block with
  | ok d =>
      rw [work] at rest
      obtain ⟨⟩ := rest
      exact .inserted bare work
  | error error =>
      rw [work] at rest
      obtain ⟨⟩ := rest
      exact .refused (by simp [Exchange.isVain]) ((e.document.insert_meets ..).error _ work)

theorem deleteRange_ending (h : (e.deleteRange i).Goes xs reply) :
    e.Ending i .delete xs reply := by
  refine ending_bare h fun bare h => ending_onLines h fun _ h => ?_
  cases work : e.document.delete i.start i.stop with
  | ok d =>
      rw [work] at h
      obtain ⟨⟩ := h
      exact .deleted bare work
  | error error =>
      rw [work] at h
      exact ending_refuse h ((e.document.delete_meets ..).error _ work)

/-- Once the old lines are out, putting the new ones in cannot fail. -/
theorem changeRange_ending (h : (e.changeRange i).Goes xs reply) :
    e.Ending i .change xs reply := by
  refine ending_bare h fun bare h => ending_onLines h fun _ h =>
    ending_readBlock h fun block ys hxs rest => ?_
  subst hxs
  cases out : e.document.delete i.start i.stop with
  | ok between =>
      rw [out] at rest
      obtain ⟨⟩ := rest
      exact .changed bare out rfl
  | error error =>
      rw [out] at rest
      obtain ⟨⟩ := rest
      exact .refused (by simp [Exchange.isVain]) ((e.document.delete_meets ..).error _ out)

theorem ending_confirming {verb : Verb} {command : Editor → Dialogue Reply}
    (guarded : verb = .load true ∨ verb = .quit true)
    (h : (e.confirming command).Goes xs reply)
    (work : e.document.modified = false → (command e).Goes xs reply → e.Ending i verb xs reply) :
    e.Ending i verb xs reply := by
  unfold confirming Document.confirmDiscard at h
  cases modified : e.document.modified with
  | true =>
      simp only [modified, if_true] at h
      obtain ⟨⟩ := h
      exact .warned guarded modified
  | false =>
      simp only [modified, Bool.false_eq_true, if_false] at h
      exact work modified h

theorem load_ending {guarded : Bool} {name : Text} (word : i.word = [i.verb])
    (named : i.filename = some name) (allowed : guarded = true → e.document.modified = false)
    (h : ((e.document.load name).bind (e.reportCount .proceed)).Goes xs reply) :
    e.Ending i (.load guarded) xs reply := by
  obtain _ | _ | _ | ⟨loaded, h⟩ := h
  cases loaded with
  | ok loaded =>
      obtain _ | _ | ⟨printed, h⟩ := h
      cases printed with
      | true =>
          obtain ⟨⟩ := h
          exact .loaded word named allowed
      | false =>
          obtain ⟨⟩ := h
          exact .loaded word named allowed
  | error =>
      obtain ⟨⟩ := h
      exact .refused (by simp [Exchange.isVain]) (by decide)

theorem loadFile_ending {guarded : Bool} (h : (e.loadFile guarded i).Goes xs reply) :
    e.Ending i (.load guarded) xs reply := by
  unfold loadFile at h
  split at h
  · exact ending_refuse h (by decide)
  · next word =>
    split at h
    · exact ending_refuse h (by decide)
    · next name named =>
      have word : i.word = [i.verb] := by simpa using word
      cases guarded with
      | false => exact load_ending word named (by simp) h
      | true =>
          simp only [if_true] at h
          refine ending_confirming (.inl rfl) h fun unmodified h => ?_
          exact load_ending word named (fun _ => unmodified) h

theorem save_ending {outcome : Outcome}
    (word : i.word = ['w'] ∧ outcome = .proceed ∨ i.word = ['w', 'q'] ∧ outcome = .quit)
    (h : ((e.document.save i.filename).bind (e.reportCount outcome)).Goes xs reply) :
    e.Ending i .save xs reply := by
  unfold Document.save at h
  split at h
  · exact ending_refuse h (by decide)
  · next name named =>
    obtain _ | _ | _ | _ | ⟨saved, h⟩ := h
    cases saved with
    | ok count =>
        obtain _ | _ | ⟨printed, h⟩ := h
        cases printed with
        | true =>
            obtain ⟨⟩ := h
            exact .saved word named
        | false =>
            obtain ⟨⟩ := h
            exact .saved word named
    | error =>
        obtain ⟨⟩ := h
        exact .refused (by simp [Exchange.isVain]) (by decide)

theorem saveFile_ending (h : (e.saveFile i).Goes xs reply) : e.Ending i .save xs reply := by
  unfold saveFile at h
  dsimp only at h
  split at h
  · next word => exact save_ending (.inl ⟨word, rfl⟩) h
  · split at h
    · next word => exact save_ending (.inr ⟨word, rfl⟩) h
    · exact ending_refuse h (by decide)

theorem explain_ending (h : (e.explain i).Goes xs reply) : e.Ending i .help xs reply := by
  refine ending_bare h fun bare h => ?_
  obtain ⟨all, printing, rfl⟩ := goes_printing h
  cases all with
  | true => exact .explained bare printing
  | false => exact .explained bare printing

theorem leave_ending {guarded : Bool} (h : (e.leave guarded i).Goes xs reply) :
    e.Ending i (.quit guarded) xs reply := by
  refine ending_bare h fun bare h => ?_
  cases guarded with
  | false =>
      obtain ⟨⟩ := h
      exact .left bare (by simp)
  | true =>
      simp only [if_true] at h
      refine ending_confirming (.inr rfl) h fun unmodified h => ?_
      obtain ⟨⟩ := h
      exact .left bare fun _ => unmodified

theorem substitute_ending (h : (e.substitute i).Goes xs reply) :
    e.Ending i .substitute xs reply := by
  unfold substitute at h
  split at h
  · next error parsed => exact ending_refuse h ((Substitution.parse_meets _).error _ parsed)
  · next s parsed =>
    refine ending_onLines h fun lines h => ?_
    split at h
    · next error compiled => exact ending_refuse h (s.compile_meets.error _ compiled)
    · next own compiled =>
      split at h
      · exact ending_refuse h (by decide)
      · next r pattern =>
        rw [substituteWith_eq] at h
        obtain ⟨all, printing, rfl⟩ := goes_printing h
        cases all with
        | true => exact .substituted parsed lines compiled pattern printing
        | false => exact .substituted parsed lines compiled pattern printing

theorem run_ending {verb : Verb} (h : (e.run i verb).Goes xs reply) :
    e.Ending i verb xs reply := by
  cases verb with
  | print mode => exact printRange_ending h
  | insert position => exact insertBlock_ending h
  | delete => exact deleteRange_ending h
  | change => exact changeRange_ending h
  | load guarded => exact loadFile_ending h
  | save => exact saveFile_ending h
  | help => exact explain_ending h
  | quit guarded => exact leave_ending h
  | substitute => exact substitute_ending h

/-- The failures of a verb: it refuses, it warns, or it cannot print. -/
theorem Ending.failed {verb : Verb} {error : EditorError} (h : e.Ending i verb xs reply)
    (failed : reply.result = .error error) :
    error = .cannotWriteOutput ∨
      (error.IsRefusal ∧ reply = ⟨e, .error error⟩ ∧ ∀ x ∈ xs, x.onlyReads = true) ∨
      (error = .modified ∧ (verb = .load true ∨ verb = .quit true) ∧
        e.document.modified = true ∧ xs = [] ∧
        reply = ⟨e.withDocument { e.document with modified := false }, .error .modified⟩) := by
  cases h with
  | refused vain refusal =>
      cases failed
      exact .inr (.inl ⟨refusal, rfl, fun x hx => Exchange.onlyReads_of_isVain (vain x hx)⟩)
  | warned guarded modified =>
      cases failed
      exact .inr (.inr ⟨rfl, guarded, modified, rfl, rfl⟩)
  | printed | loaded | saved | explained | substituted => exact .inl (told_error failed).2
  | inserted | deleted | changed | left => cases failed

theorem Ending.exists_unprinted {verb : Verb} (ending : e.Ending i verb xs reply)
    (failed : reply.result = .error .cannotWriteOutput) : ∃ line, .print line false ∈ xs := by
  cases ending with
  | refused vain refusal =>
      cases failed
      exact absurd rfl refusal.2
  | warned | inserted | deleted | changed | left => cases failed
  | printed _ _ printing | explained _ printing | substituted _ _ _ _ printing =>
      obtain ⟨rfl, -⟩ := told_error failed
      exact printing.exists_failed
  | loaded | saved =>
      obtain ⟨rfl, -⟩ := told_error failed
      exact ⟨_, List.mem_cons_of_mem _ List.mem_cons_self⟩

/-- A command line has no good addresses or no known verb, or its verb ends on the editor as the
addresses leave it, and what failed is settled. -/
theorem tryExecute_cases {line : Text} (h : (e.tryExecute line).Goes xs reply) :
    (∃ error, error.IsRefusal ∧ xs = [] ∧ reply = ⟨e, .error error⟩) ∨
      ∃ r verb raw, resolve line e.document.buffer e.document.cursor e.lastPattern = .ok r ∧
        Verb.ofChar? r.verb = some verb ∧ (e.resolved r).Ending r.invocation verb xs raw ∧
        reply = e.settle raw := by
  unfold tryExecute at h
  split at h
  · next error resolution =>
    obtain ⟨⟩ := h
    exact .inl ⟨error, ((resolve_meets ..).error _ resolution).isRefusal, rfl, rfl⟩
  · next r resolution =>
    split at h
    · obtain ⟨⟩ := h
      exact .inl ⟨.unknownCommand, by decide, rfl, rfl⟩
    · next verb known =>
      obtain ⟨raw, goes, rfl⟩ := h.of_map
      exact .inr ⟨r, verb, raw, resolution, known, run_ending goes, rfl⟩

@[simp] theorem settle_result (before : Editor) (reply : Reply) :
    (before.settle reply).result = reply.result := by
  unfold settle
  split <;> rfl

@[simp] theorem settle_buffer (before : Editor) (reply : Reply) :
    (before.settle reply).editor.document.buffer = reply.editor.document.buffer := by
  unfold settle
  split <;> rfl

@[simp] theorem settle_modified (before : Editor) (reply : Reply) :
    (before.settle reply).editor.document.modified = reply.editor.document.modified := by
  unfold settle
  split <;> rfl

@[simp] theorem settle_filename (before : Editor) (reply : Reply) :
    (before.settle reply).editor.document.filename = reply.editor.document.filename := by
  unfold settle
  split <;> rfl

@[simp] theorem settle_lastError (before : Editor) (reply : Reply) :
    (before.settle reply).editor.lastError = reply.editor.lastError := by
  unfold settle
  split <;> rfl

theorem settle_of_ok {outcome : Outcome} (before : Editor) (ok : reply.result = .ok outcome) :
    before.settle reply = reply := by
  rw [settle, ok]

theorem settle_error {before after : Editor} {error : EditorError} (h : error ≠ .modified) :
    before.settle ⟨after, .error error⟩ =
      ⟨{ document := { after.document with cursor := before.document.cursor }
         lastPattern := before.lastPattern
         lastError := after.lastError }, .error error⟩ := by
  cases error <;> first | rfl | exact absurd rfl h

theorem settle_resolved {r : Resolution} {error : EditorError} (h : error ≠ .modified) :
    e.settle ⟨e.resolved r, .error error⟩ = ⟨e, .error error⟩ :=
  settle_error h

end Editor

end LineEditor
