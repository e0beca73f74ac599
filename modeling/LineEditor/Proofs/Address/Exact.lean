import LineEditor.Proofs.Exact

/-! Addresses worked out with whole numbers of any size. In words the same calculation comes to what
addresses are worked out to. The numbers that nobody checks are those of the lines that a search
passes, the negatives of offsets and the count of the addresses, and all of these are words. -/
namespace LineEditor

def Direction.stepExactly : Direction → Nat → Nat → Int
  | forward, count, addr => (addr % count : Nat) + 1
  | backward, count, addr => if addr ≤ 1 then count else addr - 1

def Buffer.searchExactly (b : Buffer) (d : Direction) (test : Text → Bool) : Nat → Nat → Exact Nat
  | 0, _ => Exact.of (.error .noMatch)
  | steps + 1, addr => do
      let addr ← Exact.counted (d.stepExactly b.lineCount addr)
      if (b.getLine addr).any test then return addr
      else searchExactly b d test steps addr

def Base.exactly (b : Buffer) (last : Option Regex) (p : Progress) : Base → Exact (Int × Progress)
  | .number digits => return (← Exact.checked (Text.number digits), p)
  | .current => return (← Exact.checked p.current, p)
  | .last => return (← Exact.checked b.lineCount, p)
  | .pattern d source => do
      let p ← Exact.of (p.adopt source)
      match p.compiled.or last with
      | none => Exact.of (.error .noPreviousPattern)
      | some r =>
          let addr ← b.searchExactly d r.isMatch b.lineCount (min p.current b.lineCount)
          return (← Exact.checked addr, p)

def Offset.exactly (o : Offset) : Exact Int := do
  let size ← match o.digits with
    | some digits => Exact.checked (Text.number digits)
    | none => pure 1
  match o.sign with
  | .plus => return size
  | .minus => Exact.negate size

def addExactly (current : Nat) : Option Int → List Offset → Exact (Option Int)
  | value, [] => return value
  | value, o :: offsets => do
      let offset ← o.exactly
      let here ← Exact.checked current
      let sum ← Exact.checked (value.getD here + offset)
      addExactly current (some sum) offsets

def Component.startExactly (b : Buffer) (last : Option Regex) (p : Progress) (c : Component) :
    Exact (Option Int × Progress) :=
  match c.base with
  | some base => do
      let (value, p) ← base.exactly b last p
      return (some value, p)
  | none => return (none, p)

def Component.exactly (b : Buffer) (last : Option Regex) (p : Progress) (c : Component) :
    Exact (Option Nat × Progress) := do
  let (start, p) ← c.startExactly b last p
  Exact.of (addressOf p (← addExactly p.current start c.offsets))

def listExactly (b : Buffer) (addr : Nat) (addrs : List Nat) : Exact (List Nat) := do
  Exact.of (b.require addr)
  let _ ← Exact.counted (addrs.length + 1)
  return addr :: addrs

def evaluateMoreExactly (b : Buffer) (last : Option Regex) :
    Progress → List Nat → Option Nat → List (Separator × Component) →
      Exact (Progress × List Nat × Option Nat)
  | p, addrs, pending, [] => return (p, addrs, pending)
  | p, addrs, pending, (separator, component) :: more => do
      let left := pending.getD (separator.missing b p)
      let addrs ← listExactly b left addrs
      let (value, p) ← component.exactly b last (separator.move left p)
      let next := if pending.isNone && value.isNone then some b.lineCount else value
      evaluateMoreExactly b last p addrs next more

def Chain.exactly (b : Buffer) (last : Option Regex) (p : Progress) (c : Chain) :
    Exact (Progress × List Nat) := do
  let (value, p) ← c.first.exactly b last p
  let (p, addrs, pending) ← evaluateMoreExactly b last p [] value c.more
  if c.stray then Exact.of (.error .invalidAddress)
  else match pending with
    | none => return (p, addrs)
    | some addr => return (p, ← listExactly b addr addrs)

def Addresses.exactly (b : Buffer) (last : Option Regex) (p : Progress) :
    Addresses → Exact (Progress × List Nat)
  | .whole => do
      let addrs ← listExactly b (min 1 b.lineCount) []
      return (p, ← listExactly b b.lineCount addrs)
  | .chain c => c.exactly b last p

def chooseExactly (b : Buffer) (current : Nat) (rest : Text) : List Nat → Exact (Nat × Nat)
  | [] =>
      if rest.isEmpty then do
        let next ← Exact.counted (current + 1)
        Exact.of (b.require next)
        return (next, next)
      else return (current, current)
  | [addr] => return (addr, addr)
  | last :: previous :: _ => return (previous, last)

/-- The addresses of a command line, with numbers of any size. -/
def resolveExactly (text : Text) (b : Buffer) (current : Nat) (last : Option Regex) :
    Exact Resolution := do
  let (addresses, rest) := Addresses.read text
  let (p, addrs) ← addresses.exactly b last ⟨current, none⟩
  let (start, stop) ← chooseExactly b p.current rest addrs
  if start ≤ stop ∧ stop ≤ b.lineCount then
    return ⟨start, stop, orPrint rest, p.current, p.compiled⟩
  else Exact.of (.error .invalidAddress)

open Exact

section

variable {count addr : Nat}

theorem Direction.stepExactly_eq (d : Direction) :
    d.stepExactly count addr = d.step count addr := by
  cases d with
  | forward => rfl
  | backward =>
      by_cases first : addr ≤ 1
      · rw [stepExactly, step, if_pos first, if_pos first]
      · rw [stepExactly, step, if_neg first, if_neg first]
        omega

theorem Direction.step_le (d : Direction) (filled : 0 < count) (inside : addr ≤ count) :
    d.step count addr ≤ count := by
  cases d with
  | forward => exact Nat.mod_lt addr filled
  | backward =>
      by_cases first : addr ≤ 1
      · exact Nat.le_of_eq (if_pos first)
      · exact Nat.le_trans (Nat.le_of_eq (if_neg first)) (by omega)

end

theorem Buffer.require_noOverflow (b : Buffer) (addr : Nat) :
    b.require addr ≠ .error .addressOverflow := by
  unfold require
  split <;> nofun

theorem Progress.adopt_noOverflow (p : Progress) (source : Text) :
    p.adopt source ≠ .error .addressOverflow := by
  unfold adopt
  split
  · nofun
  · split <;> nofun

theorem addressOf_noOverflow (p : Progress) (sum : Option Int) :
    addressOf p sum ≠ .error .addressOverflow := by
  unfold addressOf
  split <;> nofun

theorem isWord_neg_of_signed {n : Nat} {word : Int} (h : signed n = .ok word) : IsWord (-word) := by
  rw [signed_eq] at h
  split at h
  · cases h
    unfold IsWord at *
    omega
  · cases h

theorem Offset.exactly_yields (o : Offset) : o.exactly.Yields o.value := by
  obtain ⟨sign, digits⟩ := o
  cases digits with
  | none =>
      cases sign with
      | plus => exact .ok 1
      | minus =>
          refine (Yields.ok 1).bind ?_
          rintro _ ⟨⟩
          exact .negate (by decide)
  | some digits =>
      refine (Yields.checked _).bind fun size read => ?_
      cases sign with
      | plus => exact .ok size
      | minus => exact .negate (isWord_neg_of_signed read)

theorem addExactly_yields (current : Nat) (value : Option Int) (offsets : List Offset) :
    (addExactly current value offsets).Yields (addOffsets current value offsets) := by
  induction offsets generalizing value with
  | nil => exact .ok value
  | cons o offsets ih =>
      refine o.exactly_yields.bind fun _ _ => (Yields.checked _).bind fun _ _ => ?_
      exact (Yields.checked _).bind fun _ _ => ih _

theorem Buffer.searchFrom_succ (b : Buffer) (d : Direction) (test : Text → Bool)
    (steps addr : Nat) :
    (b.searchFrom d test (steps + 1) addr).1 =
      if (b.getLine (d.step b.lineCount addr)).any test then some (d.step b.lineCount addr)
      else (b.searchFrom d test steps (d.step b.lineCount addr)).1 := by
  simp only [searchFrom]
  cases b.getLine (d.step b.lineCount addr) with
  | none => rfl
  | some line =>
      cases passed : test line <;> simp [passed]

section

variable {b : Buffer} (counted : b.lineCount < addressLimit)

include counted

theorem Buffer.searchFrom_yields (d : Direction) (test : Text → Bool) (steps : Nat) {addr : Nat}
    (filled : 0 < b.lineCount) (inside : addr ≤ b.lineCount) :
    (b.searchExactly d test steps addr).Yields
      ((b.searchFrom d test steps addr).1.elim (.error .noMatch) .ok) := by
  induction steps generalizing addr with
  | zero => exact .of nofun
  | succ steps ih =>
      have next := d.step_le filled inside
      have onward := ih next
      rw [searchExactly, d.stepExactly_eq, b.searchFrom_succ]
      refine (Yields.counted (Nat.lt_of_le_of_lt next counted)).bind_ok ?_
      cases (b.getLine (d.step b.lineCount addr)).any test with
      | true => exact .ok _
      | false => exact onward

theorem Buffer.search_yields (start : Nat) (d : Direction) (test : Text → Bool) :
    (b.searchExactly d test b.lineCount (min start b.lineCount)).Yields
      (b.search start d test) := by
  have found : b.search start d test =
      (b.searchTested start d test).1.elim (.error .noMatch) .ok := by
    unfold search
    cases (b.searchTested start d test).1 <;> rfl
  rw [found, searchTested]
  rcases Nat.eq_zero_or_pos b.lineCount with empty | filled
  · rw [empty]
    exact .of nofun
  · exact Buffer.searchFrom_yields counted d test b.lineCount filled (Nat.min_le_right ..)

variable (last : Option Regex)

theorem Base.exactly_yields (p : Progress) (base : Base) :
    (base.exactly b last p).Yields (base.value b last p) := by
  cases base with
  | number digits => exact (Yields.checked _).bind fun _ _ => .ok _
  | current => exact (Yields.checked _).bind fun _ _ => .ok _
  | last => exact (Yields.checked _).bind fun _ _ => .ok _
  | pattern d source =>
      refine (Yields.of (p.adopt_noOverflow source)).bind fun q _ => ?_
      cases q.compiled.or last with
      | none => exact .of nofun
      | some r =>
          refine (Buffer.search_yields counted q.current d r.isMatch).bind fun addr _ => ?_
          exact (Yields.checked _).bind fun _ _ => .ok _

theorem Component.startExactly_yields (p : Progress) (c : Component) :
    (c.startExactly b last p).Yields (c.start b last p) := by
  obtain ⟨base, offsets⟩ := c
  cases base with
  | none => exact .ok (none, p)
  | some base =>
      exact (Base.exactly_yields counted last p base).bind fun r _ => .ok (some r.1, r.2)

theorem Component.exactly_yields (p : Progress) (c : Component) :
    (c.exactly b last p).Yields (c.value b last p) := by
  rw [c.value_eq]
  refine (Component.startExactly_yields counted last p c).bind fun r _ => ?_
  exact (addExactly_yields ..).bind fun sum _ => .of (addressOf_noOverflow r.2 sum)

end

theorem Exact.Yields.list {α : Type} {b : Buffer} {addr : Nat} {addrs : List Nat}
    {f : List Nat → Exact α} {r : Except EditorError α} (short : addrs.length + 1 < addressLimit)
    (rest : (f (addr :: addrs)).Yields r) :
    (listExactly b addr addrs >>= f).Yields (b.require addr >>= fun _ => r) := by
  have listed :
      (listExactly b addr addrs).Yields (b.require addr >>= fun _ => .ok (addr :: addrs)) :=
    (Yields.of (b.require_noOverflow addr)).bind fun _ _ => (Yields.counted short).bind_ok (.ok _)
  have followed := listed.bind (f := f) (g := fun _ => r) fun given listing => by
    obtain ⟨_, -, same⟩ := of_bind_ok listing
    cases same
    exact rest
  rwa [bind_assoc] at followed

theorem length_evaluateMore {b : Buffer} {last : Option Regex} {p : Progress} {addrs : List Nat}
    {pending : Option Nat} {more : List (Separator × Component)}
    {r : Progress × List Nat × Option Nat} (h : evaluateMore b last p addrs pending more = .ok r) :
    r.2.1.length = addrs.length + more.length := by
  induction more generalizing p addrs pending with
  | nil =>
      cases h
      rfl
  | cons step more ih =>
      obtain ⟨separator, c⟩ := step
      obtain ⟨-, -, h⟩ := of_bind_ok h
      obtain ⟨q, -, h⟩ := of_bind_ok h
      rw [ih h, List.length_cons, List.length_cons]
      omega

section

variable {b : Buffer} (counted : b.lineCount < addressLimit) (last : Option Regex)

include counted

theorem evaluateMoreExactly_yields (p : Progress) (addrs : List Nat) (pending : Option Nat)
    (more : List (Separator × Component)) (short : addrs.length + more.length < addressLimit) :
    (evaluateMoreExactly b last p addrs pending more).Yields
      (evaluateMore b last p addrs pending more) := by
  induction more generalizing p addrs pending with
  | nil => exact .ok _
  | cons step more ih =>
      obtain ⟨separator, c⟩ := step
      rw [List.length_cons] at short
      refine .list (by omega) ?_
      refine (Component.exactly_yields counted last _ c).bind fun r _ => ?_
      refine ih _ _ _ ?_
      rw [List.length_cons]
      omega

theorem Chain.exactly_yields (p : Progress) (c : Chain) (short : c.more.length + 1 < addressLimit) :
    (c.exactly b last p).Yields (c.evaluate b last p) := by
  refine (Component.exactly_yields counted last p c.first).bind fun r _ => ?_
  have little : ([] : List Nat).length + c.more.length < addressLimit := by
    rw [List.length_nil]
    omega
  refine (evaluateMoreExactly_yields counted last r.2 [] r.1 c.more little).bind fun q reached => ?_
  have length := length_evaluateMore reached
  rw [List.length_nil, Nat.zero_add] at length
  obtain ⟨q, addrs, pending⟩ := q
  dsimp only at length ⊢
  split
  · exact .of nofun
  · cases pending with
    | none => exact .ok _
    | some addr => exact .list (by omega) (.ok _)

theorem Addresses.exactly_yields (p : Progress) (a : Addresses)
    (short : ∀ c, a = .chain c → c.more.length + 1 < addressLimit) :
    (a.exactly b last p).Yields (a.evaluate b last p) := by
  cases a with
  | chain c => exact c.exactly_yields counted last p (short c rfl)
  | whole =>
      have first : b.require (min 1 b.lineCount) = .ok () := if_pos b.holds_min_one
      have behind : b.require b.lineCount = .ok () := if_pos b.holds_lineCount
      have both : Addresses.evaluate b last p .whole = b.require (min 1 b.lineCount) >>= fun _ =>
          b.require b.lineCount >>= fun _ => .ok (p, [b.lineCount, min 1 b.lineCount]) := by
        rw [first, behind]
        rfl
      rw [both]
      exact .list (by decide) (.list (show 1 + 1 < addressLimit by decide) (.ok _))

end

end LineEditor
