import LineEditor.Proofs.Editor.Patterns

/-! A `q` that was answered with the warning of unwritten changes and is typed again. Its addresses
are then resolved from the line and with the pattern that the first one has left, so it quits if
they are still good, and else fails. Most addresses come to the same again. -/
namespace LineEditor

namespace PatternField

def OpensFilled (fields : List PatternField) : Prop := ∀ f ∈ fields.head?, f.IsFilled

theorem OpensFilled.left {xs ys : List PatternField} (h : OpensFilled (xs ++ ys)) :
    OpensFilled xs := by
  cases xs with
  | nil => simp [OpensFilled]
  | cons f xs => exact h

theorem OpensFilled.exists_filled {fields : List PatternField} (h : OpensFilled fields)
    (given : fields ≠ []) : ∃ f ∈ fields, f.IsFilled := by
  obtain ⟨f, more, rfl⟩ := List.exists_cons_of_ne_nil given
  exact ⟨f, List.mem_cons_self, h f rfl⟩

end PatternField

open PatternField

section

variable (b : Buffer) (session session' : Option Regex)

theorem Base.valueBehind_session {left : List PatternField} (current : Nat) {base : Base}
    (opened : OpensFilled (left ++ base.fields)) :
    base.valueBehind b session left current = base.valueBehind b session' left current := by
  cases base with
  | number | current | last => rfl
  | pattern d source =>
      have filled : ∃ f ∈ left ++ [⟨source, false⟩], f.IsFilled :=
        opened.exists_filled (List.append_ne_nil_of_right_ne_nil left (List.cons_ne_nil _ _))
      rw [valueBehind, valueBehind, inForce_congr filled session session']

theorem Component.valueBehind_session {left : List PatternField} (current : Nat) {c : Component}
    (opened : OpensFilled (left ++ c.fields)) :
    c.valueBehind b session left current = c.valueBehind b session' left current := by
  obtain ⟨base, offsets⟩ := c
  cases base with
  | none => rfl
  | some base =>
      have own : OpensFilled (left ++ base.fields) := by simpa [Component.fields] using opened
      simp only [Component.valueBehind, Base.valueBehind_session b session session' current own]

theorem evaluateBehind_session {left : List PatternField} (current : Nat) (addrs : List Nat)
    (pending : Option Nat) {more : List (Separator × Component)}
    (opened : OpensFilled (left ++ more.flatMap (·.2.fields))) :
    evaluateBehind b session left current addrs pending more =
      evaluateBehind b session' left current addrs pending more := by
  induction more generalizing left current addrs pending with
  | nil => rfl
  | cons step more ih =>
      obtain ⟨separator, c⟩ := step
      rw [List.flatMap_cons, ← List.append_assoc] at opened
      simp only [evaluateBehind]
      refine bind_congr fun _ => ?_
      rw [Component.valueBehind_session b session session' _ opened.left]
      exact bind_congr fun _ => ih _ _ _ opened

theorem Addresses.valueByFields_session (current : Nat) {a : Addresses}
    (opened : OpensFilled a.fields) :
    a.valueByFields b session current = a.valueByFields b session' current := by
  cases a with
  | whole => rfl
  | chain c =>
      have first : OpensFilled ([] ++ c.first.fields) := OpensFilled.left opened
      simp only [valueByFields, Component.valueBehind_session b session session' current first]
      refine bind_congr fun _ => ?_
      rw [evaluateBehind_session b session session' current _ _ opened]

end

theorem evaluateBehind_commas {b : Buffer} {session : Option Regex} {left : List PatternField}
    {current : Nat} {addrs : List Nat} {pending : Option Nat}
    {more : List (Separator × Component)} {m : Nat × List Nat × Option Nat}
    (commas : ∀ step ∈ more, step.1 = .comma)
    (h : evaluateBehind b session left current addrs pending more = .ok m) : m.1 = current := by
  induction more generalizing left addrs pending with
  | nil =>
      cases h
      rfl
  | cons step more ih =>
      obtain ⟨separator, c⟩ := step
      obtain ⟨isComma, others⟩ := List.forall_mem_cons.mp commas
      dsimp only at isComma
      subst isComma
      obtain ⟨_, -, h⟩ := of_bind_ok h
      obtain ⟨_, -, h⟩ := of_bind_ok h
      exact ih others h

theorem Addresses.valueByFields_commas {b : Buffer} {session : Option Regex} {current : Nat}
    {c : Chain} {m : Nat × List Nat} (commas : ∀ step ∈ c.more, step.1 = .comma)
    (h : (chain c).valueByFields b session current = .ok m) : m.1 = current := by
  obtain ⟨first, -, h⟩ := of_bind_ok h
  obtain ⟨⟨here, addrs, pending⟩, walked, h⟩ := of_bind_ok h
  have stayed : here = current := evaluateBehind_commas commas walked
  dsimp only at h
  split at h
  · cases h
  · cases pending with
    | none =>
        cases h
        exact stayed
    | some addr =>
        obtain ⟨_, -, h⟩ := of_bind_ok h
        cases h
        exact stayed

def Base.IsFixed : Base → Prop
  | .number _ | .last => True
  | .current | .pattern _ _ => False

/-- The current line does not count: it is not moved, or moved to a fixed line at once. -/
def Addresses.StaysPut : Addresses → Prop
  | .whole => True
  | .chain c => (∀ step ∈ c.more, step.1 = .comma) ∨
      ∃ base next more, base.IsFixed ∧ c.first = ⟨some base, []⟩ ∧
        c.more = (.semicolon, next) :: more

theorem Addresses.valueByFields_fixed (b : Buffer) (session : Option Regex) (current current' : Nat)
    {base : Base} (fixed : base.IsFixed) (next : Component) (more : List (Separator × Component))
    (stray : Bool) :
    (chain ⟨⟨some base, []⟩, (.semicolon, next) :: more, stray⟩).valueByFields b session current =
      (chain ⟨⟨some base, []⟩, (.semicolon, next) :: more, stray⟩).valueByFields b session
        current' := by
  have same : base.valueBehind b session [] current = base.valueBehind b session [] current' := by
    cases base with
    | number | last => rfl
    | current | pattern => exact fixed.elim
  simp only [valueByFields, Component.valueBehind, addOffsets, same, bind_assoc, pure_bind, ok_bind]
  refine bind_congr fun value => ?_
  cases value <;> rfl

/-- From the line and with the pattern that a resolution leaves, the addresses come to the same, if
the first of their fields is not empty or none of them is used. -/
theorem Addresses.valueByFields_again {b : Buffer} {session compiled : Option Regex} {current : Nat}
    {a : Addresses} {m : Nat × List Nat} (value : a.valueByFields b session current = .ok m)
    (pattern : inForce none a.fields = .ok compiled) (here : a.StaysPut)
    (fields : OpensFilled a.fields ∨ ∀ f ∈ a.fields, ¬ f.IsFilled) :
    a.valueByFields b (compiled.or session) m.1 = .ok m := by
  have sameSession : a.valueByFields b (compiled.or session) m.1 =
      a.valueByFields b session m.1 := by
    rcases fields with opened | empty
    · exact valueByFields_session b _ _ m.1 opened
    · rw [inForce_of_empty empty, Except.ok.injEq] at pattern
      rw [← pattern, Option.none_or]
  rw [sameSession]
  cases a with
  | whole =>
      cases value
      rfl
  | chain c =>
      rcases here with commas | ⟨base, next, more, fixed, first, others⟩
      · rw [valueByFields_commas commas value, value]
      · obtain ⟨_, _, stray⟩ := c
        cases first
        cases others
        rw [valueByFields_fixed b session m.1 current fixed, value]

theorem resolve_again {text : Text} {b : Buffer} {current : Nat} {session : Option Regex}
    {r : Resolution} (resolution : resolve text b current session = .ok r)
    (here : (Addresses.read text).1.StaysPut)
    (fields : OpensFilled (Addresses.read text).1.fields ∨
      ∀ f ∈ (Addresses.read text).1.fields, ¬ f.IsFilled) :
    resolve text b r.current (r.pattern.or session) = .ok r := by
  obtain ⟨⟨addrs, value⟩, pattern⟩ := resolve_ok resolution
  have again := Addresses.valueByFields_again value pattern here fields
  rw [← resolution, resolve_eq_byFields, resolve_eq_byFields, resolveByFields, resolveByFields]
  dsimp only at again
  generalize Addresses.read text = split at *
  obtain ⟨addresses, rest⟩ := split
  dsimp only at again value ⊢
  rw [again, value]

namespace Editor

variable {e warned : Editor} {line : Text} {r : Resolution} {xs : List Exchange} {reply : Reply}

theorem tryExecute_quit
    (resolution : resolve line e.document.buffer e.document.cursor e.lastPattern = .ok r)
    (letter : r.verb = 'q') :
    e.tryExecute line =
      if r.invocation.isBare then
        if e.document.modified then
          .done ⟨(e.resolved r).withDocument
            { (e.resolved r).document with modified := false }, .error .modified⟩
        else .done ⟨e.resolved r, .ok .quit⟩
      else e.refuse .invalidSuffix := by
  have known : Verb.ofChar? r.verb = some (.quit true) := by rw [letter]; rfl
  have unchanged : (e.resolved r).document.modified = e.document.modified := rfl
  rw [tryExecute_eq resolution known, Editor.run, leave, bare]
  cases r.invocation.isBare with
  | false => exact congrArg Dialogue.done (settle_resolved (by decide))
  | true =>
      simp only [if_true, confirming, Document.confirmDiscard, unchanged]
      cases e.document.modified <;> rfl

theorem tryExecute_unresolved {error : EditorError}
    (failed : resolve line e.document.buffer e.document.cursor e.lastPattern = .error error) :
    e.tryExecute line = e.refuse error := by
  unfold tryExecute
  rw [failed]

theorem tryExecute_quit_warned (goes : (e.tryExecute line).Goes xs reply)
    (resolution : resolve line e.document.buffer e.document.cursor e.lastPattern = .ok r)
    (letter : r.verb = 'q') (warning : reply.result = .error .modified) :
    r.invocation.isBare = true ∧ reply.editor = (e.resolved r).withDocument
      { (e.resolved r).document with modified := false } := by
  rw [tryExecute_quit resolution letter] at goes
  split at goes
  · next bare =>
    split at goes
    · obtain ⟨⟩ := goes
      exact ⟨bare, rfl⟩
    · obtain ⟨⟩ := goes
      cases warning
  · obtain ⟨⟩ := goes
    cases warning

theorem verb_of_rest {again : Resolution} (same : again.rest = r.rest) : again.verb = r.verb := by
  rw [Resolution.verb, Resolution.verb, same]

theorem isBare_of_rest {again : Resolution} (same : again.rest = r.rest) :
    again.invocation.isBare = r.invocation.isBare := by
  simp only [Invocation.isBare, Invocation.suffix, Resolution.invocation, verb_of_rest same, same]

/-- Typed again behind its warning, a `q` quits if its addresses are good from the line and with the
pattern that it has left, and else fails like any command with these addresses. They are good again
where they do not look at the current line, or do not move it, and find the same patterns. -/
theorem quit_repeated (step : e.Step (.command line) xs (.error .modified) warned)
    (resolution : resolve line e.document.buffer e.document.cursor e.lastPattern = .ok r)
    (letter : r.verb = 'q') :
    (warned.document = { e.document with cursor := r.current, modified := false } ∧
      warned.lastPattern = r.pattern.or e.lastPattern) ∧
    (∀ again, resolve line e.document.buffer r.current (r.pattern.or e.lastPattern) = .ok again →
      warned.execute line = .done (warned.resolved again, .quit)) ∧
    (∀ error, resolve line e.document.buffer r.current (r.pattern.or e.lastPattern) = .error error →
      warned.execute line = (warned.report error).map (·, .proceed)) ∧
    ((Addresses.read line).1.StaysPut →
      (OpensFilled (Addresses.read line).1.fields ∨
        ∀ f ∈ (Addresses.read line).1.fields, ¬ f.IsFilled) →
      resolve line e.document.buffer r.current (r.pattern.or e.lastPattern) = .ok r) := by
  obtain ⟨ys, zs, reply, -, -, goes, result, document, pattern⟩ := step.of_command
  obtain ⟨bare, left⟩ := tryExecute_quit_warned goes resolution letter result.symm
  rw [left] at document pattern
  have left : warned.document = { e.document with cursor := r.current, modified := false } ∧
      warned.lastPattern = r.pattern.or e.lastPattern := ⟨document, pattern⟩
  have next : resolve line warned.document.buffer warned.document.cursor warned.lastPattern =
      resolve line e.document.buffer r.current (r.pattern.or e.lastPattern) := by
    rw [left.1, left.2]
  refine ⟨left, fun again found => ?_, fun error failed => ?_, resolve_again resolution⟩
  · have same : again.rest = r.rest := by rw [resolve_rest found, resolve_rest resolution]
    have unmodified : warned.document.modified = false := by rw [left.1]
    rw [execute, tryExecute_quit (next.trans found) ((verb_of_rest same).trans letter),
      isBare_of_rest same, bare, unmodified]
    rfl
  · rw [execute, tryExecute_unresolved (next.trans failed)]
    rfl

theorem quit_repeated_fixed :
    let e : Editor := ofDocument ⟨⟨[['a'], ['b']]⟩, 1, true, none⟩
    let line : Text := ['$', ';', 'q']
    let warned : Editor := ofDocument ⟨⟨[['a'], ['b']]⟩, 2, false, none⟩
    let r : Resolution := ⟨2, 2, ['q'], 2, none⟩
    e.Step (.command line) [] (.error .modified) warned ∧
      resolve line e.document.buffer e.document.cursor e.lastPattern = .ok r ∧ r.verb = 'q' ∧
      ((Addresses.read line).1.StaysPut ∧ OpensFilled (Addresses.read line).1.fields) ∧
      warned.execute line = .done (warned, .quit) := by
  intro e line warned r
  have resolution : resolve ['$', ';', 'q'] ⟨[['a'], ['b']]⟩ 1 none =
      .ok ⟨2, 2, ['q'], 2, none⟩ := rfl
  have warns : (e.tryExecute line).Goes [] ⟨warned, .error .modified⟩ := by
    rw [@tryExecute_quit e line _ resolution rfl]
    exact .done _
  have step : e.Step (.command line) [] (.error .modified) warned := .tryExecute warns
  have fixed : (Addresses.read line).1.StaysPut := .inr ⟨.last, _, _, trivial, rfl, rfl⟩
  have fields : OpensFilled (Addresses.read line).1.fields := fun f member => nomatch member
  have ⟨_, quits, _, again⟩ := quit_repeated step resolution rfl
  exact ⟨step, resolution, rfl, ⟨fixed, fields⟩, quits r (again fixed (.inl fields))⟩

/-- The first `q` moves the current line to the first one, and there are no lines in front of it. -/
theorem quit_repeated_refused :
    let start : Editor := ofDocument (.ofBuffer ⟨[['a'], ['b'], ['c'], ['d']]⟩)
    let deleted : Editor := ofDocument ⟨⟨[['a'], ['b'], ['c']]⟩, 3, true, none⟩
    let warned : Editor := ofDocument ⟨⟨[['a'], ['b'], ['c']]⟩, 1, false, none⟩
    let line : Text := ['-', '-', ';', 'q']
    let r : Resolution := ⟨1, 1, ['q'], 1, none⟩
    History start [⟨start, .command ['d'], [], .ok .proceed, deleted⟩] deleted ∧
      resolve line deleted.document.buffer deleted.document.cursor deleted.lastPattern = .ok r ∧
      r.verb = 'q' ∧
      deleted.tryExecute line = .done ⟨warned, .error .modified⟩ ∧
      warned.tryExecute line = .done ⟨warned, .error .invalidAddress⟩ := by
  intro start deleted warned line r
  have deletes : start.Step (.command ['d']) [] (.ok .proceed) deleted :=
    @Step.tryExecute start ['d'] _ ⟨deleted, .ok .proceed⟩ (.done _)
  have resolution : resolve ['-', '-', ';', 'q'] ⟨[['a'], ['b'], ['c']]⟩ 3 none =
      .ok ⟨1, 1, ['q'], 1, none⟩ := rfl
  have again : resolve ['-', '-', ';', 'q'] ⟨[['a'], ['b'], ['c']]⟩ 1 none =
      .error .invalidAddress := rfl
  exact ⟨History.start.step deletes, resolution, rfl,
    @tryExecute_quit deleted line _ resolution rfl, @tryExecute_unresolved warned line _ again⟩

end Editor

end LineEditor
