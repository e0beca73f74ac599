import LineEditor.Editor.Commands

/-! The loop of a substitution. Every new line depends on one old line alone, so the loop rewrites the
lines of its range whatever the order of the addresses is, and it never meets an address without a
line. -/
namespace LineEditor

namespace Buffer

def mapRange (b : Buffer) (start stop : Nat) (f : Text → Text) : Buffer :=
  ⟨b.lines.mapIdx fun n line => if start ≤ n + 1 ∧ n + 1 ≤ stop then f line else line⟩

@[simp] theorem lineCount_mapRange (b : Buffer) (start stop : Nat) (f : Text → Text) :
    (b.mapRange start stop f).lineCount = b.lineCount := by
  simp [mapRange, lineCount]

theorem getLine_mapRange (b : Buffer) (start stop : Nat) (f : Text → Text) (addr : Nat) :
    (b.mapRange start stop f).getLine addr =
      if start ≤ addr ∧ addr ≤ stop then (b.getLine addr).map f else b.getLine addr := by
  cases addr with
  | zero => simp [getLine]
  | succ n =>
      simp only [mapRange, getLine, List.getElem?_mapIdx]
      split
      · rfl
      · exact Option.map_id'

theorem ext_getLine {b b' : Buffer} (same : ∀ addr, b.getLine addr = b'.getLine addr) : b = b' := by
  obtain ⟨lines⟩ := b
  obtain ⟨lines'⟩ := b'
  exact congrArg mk (List.ext_getElem? fun n => same (n + 1))

theorem replaceLine_of_getLine {b : Buffer} {addr : Nat} {line : Text}
    (there : b.getLine addr = some line) (new : Text) :
    ∃ after, b.replaceLine addr new = .ok after ∧
      ∀ other, after.getLine other = if other = addr then some new else b.getLine other := by
  cases addr with
  | zero => cases there
  | succ n =>
      obtain ⟨inside, -⟩ := List.getElem?_eq_some_iff.mp there
      refine ⟨⟨b.lines.set n new⟩, if_pos ⟨by omega, inside⟩, fun other => ?_⟩
      cases other with
      | zero => rfl
      | succ k =>
          simp only [getLine, List.getElem?_set, inside, if_true, Nat.add_right_cancel_iff,
            eq_comm (a := n)]

end Buffer

namespace Editor

variable {s : Substitution} {r : Regex} {order : List Nat}

theorem apply_of_replace? {line new : Text} (found : s.replace? r line = some new) :
    s.apply r line = new := by
  rw [Substitution.apply, found, Option.getD_some]

theorem apply_of_none {line : Text} (none : s.replace? r line = none) : s.apply r line = line := by
  rw [Substitution.apply, none, Option.getD_none]

theorem rewriteLines_cons (addr : Nat) (order : List Nat) (b : Buffer) :
    ∃ next, rewriteLines s r (addr :: order) b = rewriteLines s r order next ∧
      ∀ other, next.getLine other =
        if other = addr then (b.getLine addr).map (s.apply r) else b.getLine other := by
  cases there : b.getLine addr with
  | none =>
      refine ⟨b, by rw [rewriteLines, there]; rfl, fun other => ?_⟩
      split
      · next here => rw [here, there, Option.map_none]
      · rfl
  | some line =>
      cases found : s.replace? r line with
      | none =>
          refine ⟨b, by rw [rewriteLines, there, Option.bind_some, found], fun other => ?_⟩
          split
          · next here => rw [here, there, Option.map_some, apply_of_none found]
          · rfl
      | some new =>
          obtain ⟨next, replaced, lines⟩ := Buffer.replaceLine_of_getLine there new
          refine ⟨next, ?_, fun other => ?_⟩
          · rw [rewriteLines, there, Option.bind_some, found]
            dsimp only
            rw [replaced]
          · rw [lines, Option.map_some, apply_of_replace? found]

theorem rewriteLines_getLine (distinct : order.Nodup) (b : Buffer) :
    ∃ after, rewriteLines s r order b = (.ok (), after) ∧ ∀ addr, after.getLine addr =
      if addr ∈ order then (b.getLine addr).map (s.apply r) else b.getLine addr := by
  induction order generalizing b with
  | nil => exact ⟨b, rfl, by simp⟩
  | cons first order ih =>
      obtain ⟨fresh, distinct⟩ := List.nodup_cons.mp distinct
      obtain ⟨next, round, changed⟩ := @rewriteLines_cons s r first order b
      obtain ⟨after, rest, lines⟩ := ih distinct next
      refine ⟨after, round.trans rest, fun addr => ?_⟩
      rw [lines, changed]
      by_cases here : addr = first
      · subst here
        simp [fresh]
      · simp [here]

/-- The addresses of a range may be taken in any order. -/
theorem rewriteLines_range {start stop : Nat}
    (range : order.Perm (List.range' start (stop + 1 - start))) (b : Buffer) :
    rewriteLines s r order b = (.ok (), b.mapRange start stop (s.apply r)) := by
  have member (addr : Nat) : addr ∈ order ↔ start ≤ addr ∧ addr ≤ stop := by
    rw [range.mem_iff, List.mem_range'_1]
    omega
  obtain ⟨after, all, lines⟩ := rewriteLines_getLine (range.nodup_iff.mpr List.nodup_range') b
  rw [all]
  refine congrArg (Except.ok (), ·) (Buffer.ext_getLine fun addr => ?_)
  simp only [lines, Buffer.getLine_mapRange, member]

def substituted (e : Editor) (s : Substitution) (r : Regex) (i : Invocation) : Editor where
  document := {
    buffer := e.document.buffer.mapRange i.start i.stop (s.apply r)
    cursor := i.stop
    modified := true
    filename := e.document.filename }
  lastPattern := some r
  lastError := e.lastError

theorem substituteWith_eq (e : Editor) (s : Substitution) (r : Regex) (i : Invocation) :
    e.substituteWith s r i =
      (e.substituted s r i).printing (if s.autoPrint
        then ((e.substituted s r i).document.buffer.getLine i.stop).toList else [])
        (e.substituted s r i).proceed := by
  rw [substituteWith]
  dsimp only
  rw [rewriteLines_range (List.Perm.refl _)]
  rfl

end Editor

end LineEditor
