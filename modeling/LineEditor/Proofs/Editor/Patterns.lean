import LineEditor.Proofs.Address.Fields
import LineEditor.Proofs.Address.Rest
import LineEditor.Proofs.Editor.History
import LineEditor.Proofs.Editor.Splice

/-! The last pattern and where it comes from. It is that of the last field typed so far that is not
empty, in the commands that were accepted; a command that fails leaves nothing of its fields, unless
its failure is the warning of unwritten changes. -/
namespace LineEditor

open PatternField

namespace Substitution

def field (s : Substitution) : PatternField := ⟨s.pattern.getD [], s.flags.ignoreCase⟩

theorem head_of_parse {t : Text} {s : Substitution} (parsed : parse t = .ok s) :
    t.head? = some 's' := by
  unfold parse at parsed
  split at parsed
  · rfl
  · cases parsed

theorem pattern_of_parse {t : Text} {s : Substitution} (parsed : parse t = .ok s) :
    s.pattern ≠ some [] := by
  have made {pattern replacement flags : Text} {print : Bool}
      (h : ofFields.make pattern replacement flags print = .ok s) : s.pattern ≠ some [] := by
    obtain ⟨read, -, h⟩ := of_bind_ok h
    cases h
    cases pattern <;> simp
  unfold parse at parsed
  split at parsed
  · dsimp only at parsed
    split at parsed
    · cases parsed
    · unfold ofFields at parsed
      split at parsed
      · exact made parsed
      · exact made parsed
      · exact made parsed
      · cases parsed
  · cases parsed

theorem inForce_field {t : Text} {s : Substitution} (parsed : parse t = .ok s)
    (session : Option Regex) : inForce session [s.field] = s.compile.map (·.or session) := by
  have given := pattern_of_parse parsed
  obtain ⟨pattern, template, flags, autoPrint⟩ := s
  cases pattern with
  | none => rfl
  | some source =>
      have filled : IsFilled ⟨source, flags.ignoreCase⟩ := fun empty => given (congrArg some empty)
      simp only [inForce, field, Option.getD_some, last?_singleton filled, compile]
      cases Regex.compile flags.ignoreCase source <;> rfl

end Substitution

def fieldOfCommand (command : Text) : List PatternField :=
  match Substitution.parse command with
  | .ok s => [s.field]
  | .error _ => []

def fieldsOfLine (line : Text) : List PatternField :=
  (Addresses.read line).1.fields ++ fieldOfCommand (orPrint (Addresses.read line).2)

/-- The pattern in force behind the addresses is the one that a substitution finds. -/
theorem inForce_fieldsOfLine {line : Text} {b : Buffer} {current : Nat} {session : Option Regex}
    {r : Resolution} (resolution : resolve line b current session = .ok r) :
    inForce session (fieldsOfLine line) =
      inForce (r.pattern.or session) (fieldOfCommand r.rest) := by
  rw [resolve_rest resolution, fieldsOfLine, inForce_append (inForce_of_resolve resolution)]

namespace Editor

variable {e after : Editor} {i : Invocation} {line : Text} {xs : List Exchange} {reply : Reply}

def IsAccepted (result : Except EditorError Outcome) : Prop :=
  ∀ error, result = .error error → error = .modified

instance (result : Except EditorError Outcome) : Decidable (IsAccepted result) :=
  match result with
  | .ok _ => isTrue fun _ h => nomatch h
  | .error e => decidable_of_iff (e = .modified)
      ⟨fun same _ h => by cases h; exact same, fun h => h e rfl⟩

theorem Ending.lastPattern {verb : Verb} (ending : e.Ending i verb xs reply)
    (command : ∀ s, Substitution.parse i.text = .ok s → verb = .substitute)
    (accepted : IsAccepted reply.result) :
    inForce e.lastPattern (fieldOfCommand i.text) = .ok reply.editor.lastPattern := by
  have other (different : verb ≠ .substitute) : fieldOfCommand i.text = [] := by
    unfold fieldOfCommand
    split
    · next s parsed => exact absurd (command s parsed) different
    · rfl
  cases ending with
  | refused vain refusal => exact absurd (accepted _ rfl) refusal.1
  | warned guarded =>
      have different : verb ≠ .substitute := by rcases guarded with rfl | rfl <;> simp
      rw [other different]
      rfl
  | @printed mode all =>
      rw [other (by simp)]
      cases all <;> rfl
  | inserted | deleted | changed | loaded | saved | explained | left =>
      rw [other (by simp)]
      rfl
  | @substituted s own pattern _ _ parsed lines compiled found =>
      rw [fieldOfCommand, parsed]
      dsimp only
      rw [Substitution.inForce_field parsed, compiled]
      exact congrArg Except.ok found

theorem verb_of_parse {r : Resolution} {verb : Verb} {s : Substitution}
    (known : Verb.ofChar? r.verb = some verb) (parsed : Substitution.parse r.rest = .ok s) :
    verb = .substitute := by
  rw [Resolution.verb, Substitution.head_of_parse parsed] at known
  exact (Option.some.inj known).symm

theorem settle_lastPattern (before : Editor) (reply : Reply) :
    (before.settle reply).editor.lastPattern =
      if IsAccepted reply.result then reply.editor.lastPattern else before.lastPattern := by
  obtain ⟨editor, error | outcome⟩ := reply
  · by_cases warning : error = .modified
    · subst warning
      rfl
    · rw [settle_error warning, if_neg fun accepted => warning (accepted _ rfl)]
  · rfl

theorem tryExecute_lastPattern (goes : (e.tryExecute line).Goes xs reply) :
    inForce e.lastPattern (if IsAccepted reply.result then fieldsOfLine line else []) =
      .ok reply.editor.lastPattern := by
  rcases tryExecute_cases goes with ⟨error, refusal, rfl, rfl⟩ |
    ⟨r, verb, raw, resolution, known, ending, rfl⟩
  · rw [if_neg fun accepted => refusal.1 (accepted _ rfl)]
    rfl
  · rw [settle_result, settle_lastPattern]
    by_cases accepted : IsAccepted raw.result
    · rw [if_pos accepted, if_pos accepted, inForce_fieldsOfLine resolution]
      exact ending.lastPattern (fun s parsed => verb_of_parse known parsed) accepted
    · rw [if_neg accepted, if_neg accepted]
      rfl

def Event.fields (event : Event) : List PatternField :=
  match event.task with
  | .command line => if IsAccepted event.result then fieldsOfLine line else []
  | .startupFile _ => []

theorem Step.lastPattern {task : Task} {result : Except EditorError Outcome}
    (step : e.Step task xs result after) :
    inForce e.lastPattern (Event.fields ⟨e, task, xs, result, after⟩) = .ok after.lastPattern := by
  cases task with
  | command line =>
      obtain ⟨ys, zs, reply, -, -, goes, rfl, -, pattern⟩ := step.of_command
      rw [pattern]
      exact tryExecute_lastPattern goes
  | startupFile name =>
      cases step with
      | openStartupFile goes =>
          obtain ⟨answer, ys, -, -, same, -⟩ := openStartupFile_goes goes
          rw [same]
          rfl

section

variable {s : Substitution} (parsed : Substitution.parse i.text = .ok s)
  (lines : e.document.buffer.lines ≠ [])

include parsed lines

theorem substitute_uncompiled {error : EditorError} (compiled : s.compile = .error error) :
    e.substitute i = e.refuse error := by
  simp [substitute, parsed, onLines, Buffer.isEmpty_eq_false_iff.mpr lines, compiled]

theorem substitute_patternless {own : Option Regex} (compiled : s.compile = .ok own)
    (found : own.or e.lastPattern = none) : e.substitute i = e.refuse .noPreviousPattern := by
  simp [substitute, parsed, onLines, Buffer.isEmpty_eq_false_iff.mpr lines, compiled, found]

theorem substitute_with {own : Option Regex} {pattern : Regex} (compiled : s.compile = .ok own)
    (found : own.or e.lastPattern = some pattern) :
    e.substitute i = e.substituteWith s pattern i := by
  simp [substitute, parsed, onLines, Buffer.isEmpty_eq_false_iff.mpr lines, compiled, found]

end

/-- Within one line every pattern is found among the fields to its left: an address looks at those
in front of it and at its own, and a substitution at all of them. -/
structure FindsPatterns (e : Editor) (line : Text) : Prop where
  addresses : resolve line e.document.buffer e.document.cursor e.lastPattern =
    resolveByFields line e.document.buffer e.document.cursor e.lastPattern
  substitution : ∀ r s, resolve line e.document.buffer e.document.cursor e.lastPattern = .ok r →
    Substitution.parse r.rest = .ok s → e.document.buffer.lines ≠ [] →
    e.tryExecute line =
      match inForce e.lastPattern (fieldsOfLine line) with
      | .error error => e.refuse error
      | .ok none => e.refuse .noPreviousPattern
      | .ok (some pattern) =>
          ((e.resolved r).substituteWith s pattern r.invocation).map e.settle

theorem findsPatterns (e : Editor) (line : Text) : e.FindsPatterns line where
  addresses := resolve_eq_byFields ..
  substitution := by
    intro r s resolution parsed lines
    have letter : r.verb = 's' := by rw [Resolution.verb, Substitution.head_of_parse parsed]; rfl
    have known : Verb.ofChar? r.verb = some .substitute := by rw [letter]; rfl
    have refuses {error : EditorError} (refusal : error.IsRefusal) :
        ((e.resolved r).refuse error).map e.settle = e.refuse error :=
      congrArg Dialogue.done (settle_resolved refusal.1)
    have fields : fieldOfCommand r.rest = [s.field] := by rw [fieldOfCommand, parsed]
    rw [tryExecute_eq resolution known, inForce_fieldsOfLine resolution, fields,
      Substitution.inForce_field parsed, Editor.run]
    cases compiled : s.compile with
    | error error =>
        rw [substitute_uncompiled (e := e.resolved r) parsed lines compiled]
        exact refuses (s.compile_meets.error _ compiled)
    | ok own =>
        simp only [Except.map]
        cases found : own.or (r.pattern.or e.lastPattern) with
        | none =>
            rw [substitute_patternless (e := e.resolved r) parsed lines compiled found]
            exact refuses (by decide)
        | some pattern =>
            rw [substitute_with (e := e.resolved r) parsed lines compiled found]

/-- The last pattern is that of the last field that is not empty, among those of all commands that
were accepted and in the order in which they were typed; before there is one, it is that of the
beginning. Within a line every pattern is found among the fields to its left. -/
theorem history_lastPattern {start : Editor} {events : List Event}
    (history : History start events e) :
    inForce start.lastPattern (events.reverse.flatMap Event.fields) = .ok e.lastPattern ∧
      ∀ e line, FindsPatterns e line := by
  refine ⟨?_, findsPatterns⟩
  induction history with
  | start => rfl
  | step history step ih =>
      rw [List.reverse_cons, List.flatMap_append, inForce_append ih, List.flatMap_singleton]
      exact step.lastPattern

/-- A substitution leaves a pattern that ignores case. The command behind it does not exist, and the
last one is answered with a warning; it has found the second line by an empty field. -/
theorem history_lastPattern_reused :
    let s : Surroundings := ⟨⟨[], false⟩, ⟨[], none⟩, .empty []⟩
    let start : Editor := ofDocument (.ofBuffer ⟨[['a'], ['b']]⟩)
    let first : Event := .ofRun start ['1', 's', '/', '.', '/', 'x', '/', 'i'] s
    let second : Event := .ofRun first.after ['/', 'b', '/', 'z'] s
    let third : Event := .ofRun second.after ['/', '/', ';', 'q'] s
    let events : List Event := [third, second, first]
    History start events third.after ∧
      (¬ IsAccepted second.result ∧ IsAccepted third.result ∧
        third.after.document.cursor = 2) ∧
      events.reverse.flatMap Event.fields = [⟨['.'], true⟩, ⟨[], false⟩] ∧
      inForce start.lastPattern (events.reverse.flatMap Event.fields) =
        .ok third.after.lastPattern ∧
      third.after.lastPattern.map (fun r => (r.source, r.ignoreCase)) = some (['.'], true) := by
  intro s start first second third events
  have history : History start events third.after := ((History.start.run _ s).run _ s).run _ s
  exact ⟨history, by decide +kernel, by decide +kernel, (history_lastPattern history).1,
    by decide +kernel⟩

end Editor

end LineEditor
