import LineEditor.Proofs.Address.Range

/-! The pattern fields of a command line. Which pattern an address searches for can be read off the
text: it is that of the nearest field to the left that is not empty, the address's own included, or
else the one that the session had before. Resolving a line with patterns found in this way gives the
same as handing the last one on from address to address. -/
namespace LineEditor

structure PatternField where
  source : Text
  ignoreCase : Bool
  deriving DecidableEq, Repr

namespace PatternField

def IsFilled (f : PatternField) : Prop := f.source ≠ []

instance (f : PatternField) : Decidable f.IsFilled := inferInstanceAs (Decidable (_ ≠ _))

def last? (fields : List PatternField) : Option PatternField :=
  fields.reverse.find? (·.IsFilled)

theorem last?_append (xs ys : List PatternField) :
    last? (xs ++ ys) = (last? ys).or (last? xs) := by
  simp [last?, List.find?_append]

theorem last?_singleton {f : PatternField} (filled : f.IsFilled) : last? [f] = some f := by
  simp [last?, filled]

theorem last?_eq_none_iff {fields : List PatternField} :
    last? fields = none ↔ ∀ f ∈ fields, ¬ f.IsFilled := by
  simp [last?]

end PatternField

open PatternField

/-- The pattern in force behind some fields, in a session that had one before or none. -/
def inForce (session : Option Regex) (fields : List PatternField) :
    Except EditorError (Option Regex) :=
  match last? fields with
  | none => .ok session
  | some f =>
      match Regex.compile f.ignoreCase f.source with
      | .ok r => .ok (some r)
      | .error _ => .error .invalidPattern

theorem inForce_of_empty {session : Option Regex} {fields : List PatternField}
    (empty : ∀ f ∈ fields, ¬ f.IsFilled) : inForce session fields = .ok session := by
  rw [inForce, last?_eq_none_iff.mpr empty]

theorem inForce_congr {fields : List PatternField} (filled : ∃ f ∈ fields, f.IsFilled)
    (session session' : Option Regex) : inForce session fields = inForce session' fields := by
  obtain ⟨f, found⟩ : ∃ f, last? fields = some f := by
    refine Option.ne_none_iff_exists'.mp fun none => ?_
    obtain ⟨f, member, filled⟩ := filled
    exact last?_eq_none_iff.mp none f member filled
  rw [inForce, inForce, found]

theorem inForce_append {session between : Option Regex} {xs : List PatternField}
    (before : inForce session xs = .ok between) (ys : List PatternField) :
    inForce session (xs ++ ys) = inForce between ys := by
  rw [inForce, inForce, last?_append]
  cases found : last? ys with
  | some f => rfl
  | none => exact before

theorem inForce_or {compiled : Option Regex} {fields : List PatternField}
    (h : inForce none fields = .ok compiled) (session : Option Regex) :
    inForce session fields = .ok (compiled.or session) := by
  unfold inForce at h ⊢
  split at h
  · cases h
    rfl
  · split at h
    · cases h
      rfl
    · cases h

def Base.fields : Base → List PatternField
  | .pattern _ source => [⟨source, false⟩]
  | _ => []

def Component.fields (c : Component) : List PatternField := c.base.toList.flatMap Base.fields

def Chain.fields (c : Chain) : List PatternField :=
  c.first.fields ++ c.more.flatMap (·.2.fields)

def Addresses.fields : Addresses → List PatternField
  | .whole => []
  | .chain c => c.fields

def Base.valueBehind (b : Buffer) (session : Option Regex) (left : List PatternField)
    (current : Nat) : Base → Except EditorError Int
  | .number digits => signed (Text.number digits)
  | .current => signed current
  | .last => signed b.lineCount
  | .pattern d source => do
      match ← inForce session (left ++ [⟨source, false⟩]) with
      | none => .error .noPreviousPattern
      | some r => signed (← b.search current d r.isMatch)

def Component.valueBehind (b : Buffer) (session : Option Regex) (left : List PatternField)
    (current : Nat) (c : Component) : Except EditorError (Option Nat) := do
  let start ← match c.base with
    | some base => do pure (some (← base.valueBehind b session left current))
    | none => pure none
  match ← addOffsets current start c.offsets with
  | none => .ok none
  | some (.ofNat addr) => .ok (some addr)
  | some (.negSucc _) => .error .invalidAddress

def Separator.goTo (left current : Nat) : Separator → Nat
  | .comma => current
  | .semicolon => left

/-- Goes on behind a first component, with the fields that were passed and nothing else of the
patterns. -/
def evaluateBehind (b : Buffer) (session : Option Regex) :
    List PatternField → Nat → List Nat → Option Nat → List (Separator × Component) →
      Except EditorError (Nat × List Nat × Option Nat)
  | _, current, addrs, pending, [] => .ok (current, addrs, pending)
  | fields, current, addrs, pending, (separator, c) :: more => do
      let left := pending.getD (separator.missing b ⟨current, none⟩)
      b.require left
      let value ← c.valueBehind b session fields (separator.goTo left current)
      let next := if pending.isNone && value.isNone then some b.lineCount else value
      evaluateBehind b session (fields ++ c.fields) (separator.goTo left current) (left :: addrs)
        next more

def Addresses.valueByFields (b : Buffer) (session : Option Regex) (current : Nat) :
    Addresses → Except EditorError (Nat × List Nat)
  | .whole => .ok (current, [b.lineCount, min 1 b.lineCount])
  | .chain c => do
      let first ← c.first.valueBehind b session [] current
      let (current, addrs, pending) ← evaluateBehind b session c.first.fields current [] first c.more
      if c.stray then .error .invalidAddress
      else match pending with
        | none => return (current, addrs)
        | some addr =>
            b.require addr
            return (current, addr :: addrs)

/-- Resolves a command line with all patterns looked up in its text. -/
def resolveByFields (text : Text) (b : Buffer) (current : Nat) (session : Option Regex) :
    Except EditorError Resolution := do
  let (addresses, rest) := Addresses.read text
  let (current, addrs) ← addresses.valueByFields b session current
  let (start, stop) ← chooseRange b current rest addrs
  if start ≤ stop ∧ stop ≤ b.lineCount then
    return ⟨start, stop, orPrint rest, current, ← inForce none addresses.fields⟩
  else .error .invalidAddress

section

variable (b : Buffer) (session : Option Regex)

structure Progress.Behind (p : Progress) (current : Nat) (fields : List PatternField) : Prop where
  current : p.current = current
  compiled : inForce none fields = .ok p.compiled

variable {p : Progress} {current : Nat} {left : List PatternField}

theorem adopt_behind (behind : p.Behind current left) (source : Text) :
    Agree (fun q r => q.Behind current (left ++ [⟨source, false⟩]) ∧ r = q.compiled.or session)
      (p.adopt source) (inForce session (left ++ [⟨source, false⟩])) := by
  have field (t : Text) : inForce none (left ++ [⟨t, false⟩]) = inForce p.compiled [⟨t, false⟩] :=
    inForce_append behind.compiled _
  rw [inForce_append (inForce_or behind.compiled session)]
  cases source with
  | nil =>
      refine .ok ⟨⟨behind.current, ?_⟩, rfl⟩
      rw [field]
      rfl
  | cons c source =>
      have filled : last? [⟨c :: source, false⟩] = some ⟨c :: source, false⟩ :=
        last?_singleton (List.cons_ne_nil _ _)
      simp only [Progress.adopt, inForce, filled, List.isEmpty_cons, Bool.false_eq_true, if_false]
      cases compiled : Regex.compile false (c :: source) with
      | ok r =>
          refine .ok ⟨⟨behind.current, ?_⟩, rfl⟩
          rw [field, inForce, filled]
          simp only [compiled]
      | error e => exact .error _

theorem signed_behind (n : Int) (behind : p.Behind current left) :
    Agree (fun r m => m = r.1 ∧ r.2.Behind current left)
      (signed n >>= fun n => .ok (n, p)) (signed n) := by
  cases signed n with
  | ok n => exact .ok ⟨rfl, behind⟩
  | error e => exact .error e

theorem base_behind (behind : p.Behind current left) (base : Base) :
    Agree (fun r m => m = r.1 ∧ r.2.Behind current (left ++ base.fields)) (base.value b session p)
      (base.valueBehind b session left current) := by
  obtain ⟨rfl, -⟩ := id behind
  cases base with
  | number digits => exact signed_behind _ (by simpa [Base.fields] using behind)
  | current => exact signed_behind _ (by simpa [Base.fields] using behind)
  | last => exact signed_behind _ (by simpa [Base.fields] using behind)
  | pattern d source =>
      refine (adopt_behind session behind source).bind ?_
      rintro q _ ⟨after, rfl⟩
      cases q.compiled.or session with
      | none => exact .error _
      | some r =>
          have here : q.current = p.current := after.current
          dsimp only
          rw [here]
          refine (Agree.refl (b.search p.current d r.isMatch)).bind ?_
          rintro addr _ rfl
          exact signed_behind _ after

theorem component_behind (behind : p.Behind current left) (c : Component) :
    Agree (fun r m => m = r.1 ∧ r.2.Behind current (left ++ c.fields)) (c.value b session p)
      (c.valueBehind b session left current) := by
  have offsets {q : Progress} {fields : List PatternField} (after : q.Behind current fields)
      (start : Option Int) : Agree (fun r m => m = r.1 ∧ r.2.Behind current fields)
        (addOffsets q.current start c.offsets >>= addressOf q)
        (addOffsets current start c.offsets >>= fun
          | none => .ok none
          | some (.ofNat addr) => .ok (some addr)
          | some (.negSucc _) => .error .invalidAddress) := by
    rw [after.current]
    refine (Agree.refl _).bind ?_
    rintro sum _ rfl
    match sum with
    | none => exact .ok ⟨rfl, after⟩
    | some (.ofNat addr) => exact .ok ⟨rfl, after⟩
    | some (.negSucc _) => exact .error _
  rw [c.value_eq, Component.start, Component.valueBehind, Component.fields]
  cases c.base with
  | none => exact offsets (by simpa using behind) none
  | some base =>
      simp only [bind_assoc, ok_bind, pure_bind]
      refine (base_behind b session behind base).bind ?_
      rintro ⟨_, q⟩ value ⟨rfl, after⟩
      exact offsets (by simpa using after) (some value)

theorem evaluateMore_behind (behind : p.Behind current left) (addrs : List Nat)
    (pending : Option Nat) (more : List (Separator × Component)) :
    Agree (fun r m => m.2 = r.2 ∧ r.1.Behind m.1 (left ++ more.flatMap (·.2.fields)))
      (evaluateMore b session p addrs pending more)
      (evaluateBehind b session left current addrs pending more) := by
  induction more generalizing p current left addrs pending with
  | nil => exact .ok ⟨rfl, by simpa using behind⟩
  | cons step more ih =>
      obtain ⟨separator, c⟩ := step
      have missing : separator.missing b p = separator.missing b ⟨current, none⟩ := by
        cases separator with
        | comma => rfl
        | semicolon => exact behind.current
      have moved (addr : Nat) : (separator.move addr p).Behind (separator.goTo addr current) left := by
        cases separator with
        | comma => exact behind
        | semicolon => exact ⟨rfl, behind.compiled⟩
      simp only [evaluateMore, evaluateBehind, missing, List.flatMap_cons]
      generalize pending.getD (separator.missing b ⟨current, none⟩) = addr
      refine (Agree.refl (b.require addr)).bind fun _ _ _ => ?_
      refine (component_behind b session (moved addr) c).bind ?_
      rintro ⟨_, q⟩ value ⟨rfl, after⟩
      have rest := ih after (addr :: addrs)
        (if (pending.isNone && value.isNone) = true then some b.lineCount else value)
      simpa only [List.append_assoc] using rest

theorem addresses_behind (current : Nat) (a : Addresses) :
    Agree (fun r m => m.2 = r.2 ∧ r.1.Behind m.1 a.fields)
      (a.evaluate b session ⟨current, none⟩) (a.valueByFields b session current) := by
  have start : Progress.Behind ⟨current, none⟩ current [] := ⟨rfl, rfl⟩
  cases a with
  | whole => exact .ok ⟨rfl, start⟩
  | chain c =>
      refine (component_behind b session start c.first).bind ?_
      rintro ⟨_, q⟩ first ⟨rfl, after⟩
      refine (evaluateMore_behind b session after [] first c.more).bind ?_
      rintro ⟨q, addrs, pending⟩ ⟨here, _⟩ ⟨rfl, last⟩
      dsimp only
      split
      · exact .error _
      · cases pending with
        | none => exact .ok ⟨rfl, last⟩
        | some addr => exact (Agree.refl (b.require addr)).bind fun _ _ _ => .ok ⟨rfl, last⟩

end

/-- Handing the last pattern on from address to address finds the same as the text. -/
theorem resolve_eq_byFields (text : Text) (b : Buffer) (current : Nat) (session : Option Regex) :
    resolve text b current session = resolveByFields text b current session := by
  apply Agree.eq
  unfold resolve resolveByFields
  generalize Addresses.read text = split
  obtain ⟨addresses, rest⟩ := split
  refine (addresses_behind b session current addresses).bind ?_
  rintro ⟨q, addrs⟩ ⟨here, _⟩ ⟨rfl, behind⟩
  have same : q.current = here := behind.current
  simp only [same, behind.compiled, ok_bind]
  exact Agree.refl _

theorem resolve_ok {text : Text} {b : Buffer} {current : Nat} {session : Option Regex}
    {r : Resolution} (h : resolve text b current session = .ok r) :
    (∃ addrs, (Addresses.read text).1.valueByFields b session current = .ok (r.current, addrs)) ∧
      inForce none (Addresses.read text).1.fields = .ok r.pattern := by
  rw [resolve_eq_byFields] at h
  unfold resolveByFields at h
  generalize Addresses.read text = split at h ⊢
  obtain ⟨⟨here, addrs⟩, value, h⟩ := of_bind_ok h
  obtain ⟨range, -, h⟩ := of_bind_ok h
  dsimp only at h
  split at h
  · obtain ⟨compiled, found, h⟩ := of_bind_ok h
    cases h
    exact ⟨⟨addrs, value⟩, found⟩
  · cases h

theorem inForce_of_resolve {text : Text} {b : Buffer} {current : Nat} {session : Option Regex}
    {r : Resolution} (h : resolve text b current session = .ok r) :
    inForce session (Addresses.read text).1.fields = .ok (r.pattern.or session) :=
  inForce_or (resolve_ok h).2 session

end LineEditor
