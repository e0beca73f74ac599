import LineEditor.Proofs.Editor.Output
import LineEditor.Proofs.Editor.Patterns

/-! A substitution rewrites the lines of its range and no others. Since every new line depends on
one old line alone, the lines could as well be rewritten one at a time, in any order. -/
namespace LineEditor

/-- What a substitution makes of a document: the lines of the range are rewritten and all others
stay, the last of the range becomes current, and the document counts as changed. -/
structure Document.Rewrites (s : Substitution) (r : Regex) (start stop : Nat)
    (before after : Document) : Prop where
  lineCount : after.buffer.lineCount = before.buffer.lineCount
  inside : ∀ addr, start ≤ addr → addr ≤ stop → ∃ line,
    before.buffer.getLine addr = some line ∧ after.buffer.getLine addr = some (s.apply r line)
  outside : ∀ addr, ¬ (start ≤ addr ∧ addr ≤ stop) →
    after.buffer.getLine addr = before.buffer.getLine addr
  cursor : after.cursor = stop
  modified : after.modified = true
  filename : after.filename = before.filename
  oneByOne : ∀ order : List Nat, order.Perm (List.range' start (stop + 1 - start)) →
    Editor.rewriteLines s r order before.buffer = (.ok (), after.buffer)

theorem Document.rewrites_mapRange {d : Document} {start stop : Nat} (first : 1 ≤ start)
    (last : stop ≤ d.buffer.lineCount) (s : Substitution) (r : Regex) :
    d.Rewrites s r start stop
      { buffer := d.buffer.mapRange start stop (s.apply r)
        cursor := stop
        modified := true
        filename := d.filename } where
  lineCount := d.buffer.lineCount_mapRange ..
  inside addr low high := by
    obtain ⟨line, there⟩ := Buffer.getLine_isSome (b := d.buffer) (Nat.le_trans first low)
      (Nat.le_trans high last)
    refine ⟨line, there, ?_⟩
    rw [Buffer.getLine_mapRange, if_pos ⟨low, high⟩, there, Option.map_some]
  outside addr out := by rw [Buffer.getLine_mapRange, if_neg out]
  cursor := rfl
  modified := rfl
  filename := rfl
  oneByOne _ range := Editor.rewriteLines_range range d.buffer

theorem Substitution.compile_or {s : Substitution} {inForce : Option Regex} {pattern : Regex}
    (own : ∀ source, s.pattern = some source →
      Regex.compile s.flags.ignoreCase source = .ok pattern)
    (reused : s.pattern = none → inForce = some pattern) :
    ∃ compiled, s.compile = .ok compiled ∧ compiled.or inForce = some pattern := by
  cases given : s.pattern with
  | none =>
      refine ⟨none, ?_, reused given⟩
      rw [compile, given]
  | some source => exact ⟨some pattern, compile_own given (own source given), rfl⟩

namespace Editor

variable {e : Editor} {world : Surroundings}

theorem substituteWith_run (e : Editor) (s : Substitution) (pattern : Regex) (i : Invocation)
    (room : world.sink.room = none) :
    ∃ left, (e.substituteWith s pattern i).run world =
      (⟨e.substituted s pattern i, .ok .proceed⟩, left) :=
  ⟨_, (congrArg (·.run world) (substituteWith_eq e s pattern i)).trans
    (printing_run (e.substituted s pattern i) _ _ (Sink.takes_of_unlimited room _))⟩

/-- A substitution succeeds and rewrites the lines of its range by its own pattern, which ignores case
with the flag for it, or without one by the pattern in force behind its addresses. -/
theorem tryExecute_rewrites {line : Text} {r : Resolution} {s : Substitution} {pattern : Regex}
    (resolution : resolve line e.document.buffer e.document.cursor e.lastPattern = .ok r)
    (inside : e.document.CursorInside) (lines : e.document.buffer.lines ≠ [])
    (parsed : Substitution.parse r.rest = .ok s)
    (own : ∀ source, s.pattern = some source →
      Regex.compile s.flags.ignoreCase source = .ok pattern)
    (reused : s.pattern = none → r.pattern.or e.lastPattern = some pattern)
    (room : world.sink.room = none) :
    ∃ after left, (e.tryExecute line).run world = (⟨after, .ok .proceed⟩, left) ∧
      e.document.Rewrites s pattern r.start r.stop after.document := by
  have range : r.Inside e.document.buffer :=
    (resolve_meets ..).value r resolution (e.document.cursorInside_iff.mp inside)
  have filled : e.document.buffer.lineCount ≠ 0 := fun none => lines (List.length_eq_zero_iff.mp none)
  have first := (e.document.buffer.holds_iff _).mp range.start
  have last := (e.document.buffer.holds_iff _).mp range.stop
  have letter : r.verb = 's' := by rw [Resolution.verb, Substitution.head_of_parse parsed]; rfl
  have known : Verb.ofChar? r.verb = some .substitute := by rw [letter]; rfl
  have ordered := range.ordered
  obtain ⟨compiled, ready, found⟩ := s.compile_or own reused
  have work := substitute_with (e := e.resolved r) (i := r.invocation) parsed lines ready found
  obtain ⟨left, ran⟩ := substituteWith_run (e.resolved r) s pattern r.invocation room
  have rewrites : e.document.Rewrites s pattern r.start r.stop
      ((e.resolved r).substituted s pattern r.invocation).document :=
    Document.rewrites_mapRange (by omega) last.1 s pattern
  refine ⟨_, left, tryExecute_run_ok resolution known ?_, rewrites⟩
  rw [Editor.run, work]
  exact ran

/-- The first pattern is the one that the address has found the first line by, behind the last one. It
matches twice in the first line and nowhere in the second. Then the substitution has a pattern of its
own, and the one in force does not count. -/
theorem tryExecute_rewrites_found :
    let d : Document := ⟨⟨[['b', 'a', 'b'], ['c']]⟩, 2, false, none⟩
    let world : Surroundings := ⟨⟨[], true⟩, ⟨[], none⟩, .empty []⟩
    let line : Text := ['/', 'b', '/', ',', '$', 's', '/', '/', '<', '&', '>', '/', 'g']
    let s : Substitution :=
      ⟨none, ['<', '$', '\x7b', '0', '\x7d', '>'], ⟨true, false, false⟩, false⟩
    let pattern : Regex := ⟨['b'], false, .ofExpr (.set (.single 'b')) 0, []⟩
    let line' : Text := [',', 's', '/', '.', '/', 'x', '/', 'i']
    let s' : Substitution := ⟨some ['.'], ['x'], ⟨false, true, false⟩, false⟩
    ∃ point, Regex.compile true ['.'] = .ok point ∧
      (∃ after left, ((ofDocument d).tryExecute line).run world = (⟨after, .ok .proceed⟩, left) ∧
        d.Rewrites s pattern 1 2 after.document) ∧
      s.apply pattern ['b', 'a', 'b'] = ['<', 'b', '>', 'a', '<', 'b', '>'] ∧
      s.apply pattern ['c'] = ['c'] ∧
      (∃ after left, ((Editor.mk d (some pattern) none).tryExecute line').run world =
          (⟨after, .ok .proceed⟩, left) ∧
        d.Rewrites s' point 1 2 after.document) ∧
      s'.apply point ['b', 'a', 'b'] = ['x', 'a', 'b'] ∧ s'.apply point ['c'] = ['x'] := by
  intro d world line s pattern line' s'
  have resolution : resolve ['/', 'b', '/', ',', '$', 's', '/', '/', '<', '&', '>', '/', 'g']
      ⟨[['b', 'a', 'b'], ['c']]⟩ 2 none =
      .ok ⟨1, 2, ['s', '/', '/', '<', '&', '>', '/', 'g'], 2,
        some ⟨['b'], false, .ofExpr (.set (.single 'b')) 0, []⟩⟩ := rfl
  have resolution' : resolve [',', 's', '/', '.', '/', 'x', '/', 'i']
      ⟨[['b', 'a', 'b'], ['c']]⟩ 2 (some pattern) =
      .ok ⟨1, 2, ['s', '/', '.', '/', 'x', '/', 'i'], 2, none⟩ := rfl
  have parsed : Substitution.parse ['s', '/', '/', '<', '&', '>', '/', 'g'] = .ok s := rfl
  have parsed' : Substitution.parse ['s', '/', '.', '/', 'x', '/', 'i'] = .ok s' := rfl
  have inside : d.CursorInside := by decide
  have lines : d.buffer.lines ≠ [] := by simp [d]
  refine ⟨_, rfl, ?_, by decide +kernel, by decide +kernel, ?_, by decide +kernel,
    by decide +kernel⟩
  · exact @tryExecute_rewrites (ofDocument d) world _ _ s pattern resolution inside lines parsed nofun
      (fun _ => rfl) rfl
  · refine @tryExecute_rewrites ⟨d, some pattern, none⟩ world _ _ s' _ resolution' inside lines
      parsed' ?_ nofun rfl
    rintro _ ⟨⟩
    rfl

end Editor

end LineEditor
