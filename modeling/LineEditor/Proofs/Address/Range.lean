import LineEditor.Proofs.Failure
import LineEditor.Address.Resolution

/-! Resolved addresses lie in the document whatever was typed, and what goes wrong on the way is a
failure of addresses, of patterns or of a search, never one of the surroundings. -/
namespace LineEditor

namespace Buffer

theorem holds_iff (b : Buffer) (addr : Nat) :
    b.holds addr = true ↔ addr ≤ b.lineCount ∧ (0 < addr ∨ b.lineCount = 0) := by
  simp [holds]

def HasLine (b : Buffer) (addr : Nat) : Prop :=
  if b.lineCount = 0 then addr = 0 else 1 ≤ addr ∧ addr ≤ b.lineCount

theorem hasLine_iff (b : Buffer) (addr : Nat) : b.HasLine addr ↔ b.holds addr = true := by
  rw [HasLine, holds_iff]
  split <;> omega

instance (b : Buffer) (addr : Nat) : Decidable (b.HasLine addr) :=
  decidable_of_iff _ (b.hasLine_iff addr).symm

theorem holds_lineCount (b : Buffer) : b.holds b.lineCount = true := by
  rw [holds_iff]
  omega

theorem holds_min_one (b : Buffer) : b.holds (min 1 b.lineCount) = true := by
  rw [holds_iff]
  omega

theorem require_meets (b : Buffer) (addr : Nat) :
    Meets (b.require addr) (fun _ => b.holds addr = true) EditorError.IsAddressing := by
  unfold require
  split
  · exact .ok ‹_›
  · exact .fail (.inl rfl)

theorem search_meets (b : Buffer) (start : Nat) (d : Direction) (test : Text → Bool) :
    Meets (b.search start d test) (fun _ => True) EditorError.IsAddressing := by
  unfold search
  split
  · exact .ok trivial
  · exact .fail (.inr (.inr rfl))

end Buffer

theorem signed_meets (n : Int) : Meets (signed n) (fun _ => True) EditorError.IsAddressing := by
  unfold signed
  split
  · exact .ok trivial
  · exact .fail (.inl rfl)

theorem Progress.adopt_meets (p : Progress) (source : Text) :
    Meets (p.adopt source) (fun q => q.current = p.current) EditorError.IsAddressing := by
  unfold adopt
  split
  · exact .ok rfl
  · split
    · exact .ok rfl
    · exact .fail (.inr (.inl rfl))

theorem Base.value_meets (b : Buffer) (last : Option Regex) (p : Progress) (base : Base) :
    Meets (base.value b last p) (fun r => r.2.current = p.current) EditorError.IsAddressing := by
  cases base with
  | number digits => exact (signed_meets _).bind fun _ _ => .ok rfl
  | current => exact (signed_meets _).bind fun _ _ => .ok rfl
  | last => exact (signed_meets _).bind fun _ _ => .ok rfl
  | pattern d source =>
      refine (p.adopt_meets source).bind fun q hq => ?_
      split
      · exact .fail (.inr (.inl rfl))
      · refine (b.search_meets _ _ _).bind fun _ _ => ?_
        exact (signed_meets _).bind fun _ _ => .ok hq

theorem Offset.value_meets (o : Offset) :
    Meets o.value (fun _ => True) EditorError.IsAddressing := by
  obtain ⟨sign, digits⟩ := o
  cases digits with
  | none => cases sign <;> exact .ok trivial
  | some digits => cases sign <;> exact (signed_meets _).bind fun _ _ => .ok trivial

theorem addOffsets_meets (current : Nat) (value : Option Int) (offsets : List Offset) :
    Meets (addOffsets current value offsets) (fun _ => True) EditorError.IsAddressing := by
  induction offsets generalizing value with
  | nil => exact .ok trivial
  | cons o offsets ih =>
      refine o.value_meets.bind fun _ _ => ?_
      refine (signed_meets _).bind fun _ _ => ?_
      exact (signed_meets _).bind fun _ _ => ih _

def addressOf (p : Progress) : Option Int → Except EditorError (Option Nat × Progress)
  | none => .ok (none, p)
  | some (.ofNat addr) => .ok (some addr, p)
  | some (.negSucc _) => .error .invalidAddress

def Component.start (b : Buffer) (last : Option Regex) (p : Progress) (c : Component) :
    Except EditorError (Option Int × Progress) :=
  match c.base with
  | some base => base.value b last p >>= fun r => .ok (some r.1, r.2)
  | none => .ok (none, p)

theorem Component.value_eq (b : Buffer) (last : Option Regex) (p : Progress) (c : Component) :
    c.value b last p = c.start b last p >>= fun r =>
      addOffsets r.2.current r.1 c.offsets >>= addressOf r.2 := by
  obtain ⟨base, offsets⟩ := c
  cases base with
  | some base =>
      simp only [Component.value, Component.start, bind_assoc, pure_bind, ok_bind]
      refine bind_congr fun r => bind_congr fun sum => ?_
      cases sum with
      | none => rfl
      | some n => cases n <;> rfl
  | none =>
      simp only [Component.value, Component.start, pure_bind, ok_bind]
      refine bind_congr fun sum => ?_
      cases sum with
      | none => rfl
      | some n => cases n <;> rfl

theorem addressOf_meets (p : Progress) (sum : Option Int) :
    Meets (addressOf p sum) (fun r => r.2 = p) EditorError.IsAddressing := by
  cases sum with
  | none => exact .ok rfl
  | some n =>
      cases n with
      | ofNat addr => exact .ok rfl
      | negSucc n => exact .fail (.inl rfl)

theorem Component.start_meets (b : Buffer) (last : Option Regex) (p : Progress) (c : Component) :
    Meets (c.start b last p) (fun r => r.2.current = p.current) EditorError.IsAddressing := by
  obtain ⟨base, offsets⟩ := c
  cases base with
  | some base => exact (base.value_meets b last p).bind fun r hr => .ok hr
  | none => exact .ok rfl

theorem Component.value_meets (b : Buffer) (last : Option Regex) (p : Progress) (c : Component) :
    Meets (c.value b last p) (fun r => r.2.current = p.current) EditorError.IsAddressing := by
  rw [c.value_eq]
  refine (c.start_meets b last p).bind fun r hr => ?_
  refine (addOffsets_meets ..).bind fun sum _ => (addressOf_meets r.2 sum).mono fun q hq => ?_
  rw [hq, hr]

theorem evaluateMore_meets (b : Buffer) (last : Option Regex) (p : Progress) (addrs : List Nat)
    (pending : Option Nat) (more : List (Separator × Component))
    (good : ∀ addr ∈ addrs, b.holds addr = true) :
    Meets (evaluateMore b last p addrs pending more)
      (fun r => (b.holds p.current = true → b.holds r.1.current = true) ∧
        ∀ addr ∈ r.2.1, b.holds addr = true)
      EditorError.IsAddressing := by
  induction more generalizing p addrs pending with
  | nil => exact .ok ⟨id, good⟩
  | cons step more ih =>
      obtain ⟨separator, component⟩ := step
      refine (b.require_meets _).bind fun _ left => ?_
      refine (Component.value_meets ..).bind fun r hr => ?_
      refine (ih r.2 _ _ ?_).mono fun q hq => ⟨fun valid => hq.1 ?_, hq.2⟩
      · rintro addr (_ | ⟨_, h⟩)
        · exact left
        · exact good addr h
      · rw [hr]
        cases separator with
        | comma => exact valid
        | semicolon => exact left

theorem Chain.evaluate_meets (b : Buffer) (last : Option Regex) (p : Progress) (c : Chain) :
    Meets (c.evaluate b last p)
      (fun r => (b.holds p.current = true → b.holds r.1.current = true) ∧
        ∀ addr ∈ r.2, b.holds addr = true)
      EditorError.IsAddressing := by
  refine (Component.value_meets ..).bind fun r hr => ?_
  refine (evaluateMore_meets b last r.2 [] r.1 c.more (by simp)).bind fun q hq => ?_
  rw [hr] at hq
  dsimp only
  split
  · exact .fail (.inl rfl)
  · split
    · exact .ok hq
    · refine (b.require_meets _).bind fun _ addr => .ok ⟨hq.1, ?_⟩
      rintro a (_ | ⟨_, h⟩)
      · exact addr
      · exact hq.2 a h

theorem Addresses.evaluate_meets (b : Buffer) (last : Option Regex) (p : Progress)
    (a : Addresses) :
    Meets (a.evaluate b last p)
      (fun r => (b.holds p.current = true → b.holds r.1.current = true) ∧
        ∀ addr ∈ r.2, b.holds addr = true)
      EditorError.IsAddressing := by
  cases a with
  | whole => exact .ok ⟨id, by simp [b.holds_lineCount, b.holds_min_one]⟩
  | chain c => exact c.evaluate_meets b last p

theorem chooseRange_meets (b : Buffer) (current : Nat) (rest : Text) (addrs : List Nat)
    (good : ∀ addr ∈ addrs, b.holds addr = true) :
    Meets (chooseRange b current rest addrs)
      (fun r => b.holds current = true → b.holds r.1 = true ∧ b.holds r.2 = true)
      EditorError.IsAddressing := by
  unfold chooseRange
  split
  · split
    · split
      · exact (b.require_meets _).bind fun _ h => .ok fun _ => ⟨h, h⟩
      · exact .fail (.inl rfl)
    · exact .ok fun h => ⟨h, h⟩
  · exact .ok fun _ => ⟨good _ (by simp), good _ (by simp)⟩
  · exact .ok fun _ => ⟨good _ (by simp), good _ (by simp)⟩

structure Resolution.Inside (r : Resolution) (b : Buffer) : Prop where
  start : b.holds r.start = true
  stop : b.holds r.stop = true
  ordered : r.start ≤ r.stop
  current : b.holds r.current = true

theorem resolve_meets (text : Text) (b : Buffer) (current : Nat) (last : Option Regex) :
    Meets (resolve text b current last) (fun r => b.holds current = true → r.Inside b)
      EditorError.IsAddressing := by
  refine (Addresses.evaluate_meets ..).bind fun p hp => ?_
  refine (chooseRange_meets b p.1.current _ p.2 hp.2).bind fun range hrange => ?_
  dsimp only
  split
  · next h =>
    refine .ok fun valid => ?_
    have ends := hrange (hp.1 valid)
    exact ⟨ends.1, ends.2, h.1, hp.1 valid⟩
  · exact .fail (.inl rfl)

/-- The end of a range is checked even if the current line is none of the document. -/
theorem resolve_ordered {text : Text} {b : Buffer} {current : Nat} {last : Option Regex}
    {r : Resolution} (h : resolve text b current last = .ok r) :
    r.start ≤ r.stop ∧ r.stop ≤ b.lineCount := by
  have checked : Meets (resolve text b current last)
      (fun r => r.start ≤ r.stop ∧ r.stop ≤ b.lineCount) EditorError.IsAddressing := by
    refine (Addresses.evaluate_meets ..).bind fun p hp => ?_
    refine (chooseRange_meets b p.1.current _ p.2 hp.2).bind fun range _ => ?_
    dsimp only
    split
    · next ordered => exact .ok ordered
    · exact .fail (.inl rfl)
  exact checked.value r h

section

variable {c : Component} {text command : Text} {b : Buffer} {current addr : Nat}
  {last : Option Regex} {p : Progress} (read : Addresses.read text = (.chain ⟨c, [], false⟩, command))

include read

theorem resolve_lone_refused {e : EditorError}
    (refused : c.value b last ⟨current, none⟩ = .error e) :
    resolve text b current last = .error e := by
  simp only [resolve, read, Addresses.evaluate, Chain.evaluate, refused, error_bind]

theorem resolve_lone_address (value : c.value b last ⟨current, none⟩ = .ok (some addr, p)) :
    resolve text b current last =
      if b.HasLine addr then .ok ⟨addr, addr, orPrint command, p.current, p.compiled⟩
      else .error .invalidAddress := by
  have evaluated : Chain.evaluate b last ⟨current, none⟩ ⟨c, [], false⟩ =
      b.require addr >>= fun _ => .ok (p, [addr]) := by
    rw [Chain.evaluate, value]
    rfl
  simp only [resolve, read, Addresses.evaluate, evaluated, Buffer.require, ← b.hasLine_iff]
  by_cases line : b.HasLine addr
  · have inside : addr ≤ b.lineCount := ((b.holds_iff addr).mp ((b.hasLine_iff addr).mp line)).1
    simp only [line, if_true, ok_bind, chooseRange, Nat.le_refl, inside, and_self]
    rfl
  · simp only [line, if_false, error_bind]

theorem resolve_lone_nothing (nothing : c.value b last ⟨current, none⟩ = .ok (none, p))
    (given : command ≠ []) :
    resolve text b current last =
      if p.current ≤ b.lineCount then .ok ⟨p.current, p.current, command, p.current, p.compiled⟩
      else .error .invalidAddress := by
  have evaluated : Chain.evaluate b last ⟨current, none⟩ ⟨c, [], false⟩ = .ok (p, []) := by
    rw [Chain.evaluate, nothing]
    rfl
  have nonempty : command.isEmpty = false := by simpa using given
  simp only [resolve, read, Addresses.evaluate, evaluated, ok_bind, chooseRange, orPrint, nonempty,
    Bool.false_eq_true, if_false, Nat.le_refl, true_and]
  rfl

end

end LineEditor
