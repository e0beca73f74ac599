import Mathlib.Data.List.Infix
import LineEditor.Address.Resolution
import LineEditor.Proofs.Address.Notation
import LineEditor.Proofs.Address.Range

/-! What a chain of addresses means. It has a list of addresses, from the left to the right, of
which the last two make the range. The arithmetic is that of whole numbers, as long as every number
that is met on the way is a word. Resolving a command line gives this meaning for any way to write
it. -/
namespace LineEditor

/-- The current line and the last pattern as the addresses to the left have left them. -/
structure Live where
  current : Nat
  pattern : Option Regex
  fresh : Bool

def IsWord (n : Int) : Prop := -0x8000000000000000 ≤ n ∧ n < 0x8000000000000000

instance (n : Int) : Decidable (IsWord n) := inferInstanceAs (Decidable (_ ∧ _))

def Buffer.need (b : Buffer) (addr : Nat) : Except EditorError Unit :=
  if b.HasLine addr then .ok () else .error .invalidAddress

namespace Offset

def count (o : Offset) : Nat :=
  match o.digits with
  | none => 1
  | some digits => Text.number digits

def amount (o : Offset) : Int :=
  match o.sign with
  | .plus => o.count
  | .minus => -o.count

def total : List Offset → Int
  | [] => 0
  | o :: offsets => o.amount + total offsets

end Offset

/-- Every number that is met when offsets are added to a start is a word: the current line, the
counts and all sums on the way. -/
def Fits (here start : Int) (offsets : List Offset) : Prop :=
  (offsets ≠ [] → IsWord here) ∧ (∀ o ∈ offsets, IsWord o.count) ∧
    ∀ done ∈ offsets.inits, IsWord (start + Offset.total done)

instance (here start : Int) (offsets : List Offset) : Decidable (Fits here start offsets) :=
  inferInstanceAs (Decidable (_ ∧ _))

def Live.place (live : Live) (start : Int) (offsets : List Offset) :
    Except EditorError (Option Nat × Live) :=
  if Fits live.current start offsets ∧ 0 ≤ start + Offset.total offsets then
    .ok (some (start + Offset.total offsets).toNat, live)
  else .error .invalidAddress

def Live.adopt (live : Live) (source : Text) : Except EditorError Live :=
  if source = [] then .ok live
  else match Regex.compile false source with
    | .ok r => .ok ⟨live.current, some r, true⟩
    | .error _ => .error .invalidPattern

def Base.meaning (b : Buffer) (live : Live) : Base → Except EditorError (Nat × Live)
  | .number digits => .ok (Text.number digits, live)
  | .current => .ok (live.current, live)
  | .last => .ok (b.lineCount, live)
  | .pattern d source => do
      let live ← live.adopt source
      match live.pattern with
      | none => .error .noPreviousPattern
      | some r => return (← b.search live.current d r.isMatch, live)

/-- A component without a base counts from the current line, and one without any parts has no
address. -/
def Component.meaning (b : Buffer) (live : Live) (c : Component) :
    Except EditorError (Option Nat × Live) :=
  match c.base with
  | some base => do
      let (start, live) ← base.meaning b live
      live.place start c.offsets
  | none =>
      if c.offsets = [] then .ok (none, live)
      else live.place live.current c.offsets

def Live.omitted (b : Buffer) (live : Live) : Separator → Nat
  | .comma => min 1 b.lineCount
  | .semicolon => live.current

def Live.pass (live : Live) (addr : Nat) : Separator → Live
  | .comma => live
  | .semicolon => { live with current := addr }

/-- The addresses from one component on, whose own is `left`. When it is missing on both sides of a
separator the right one is the last line, and when it is missing on the right alone it is none. -/
def addressesFrom (b : Buffer) : Live → Option Nat → List (Separator × Component) →
    Except EditorError (List Nat × Live)
  | live, left, [] =>
      match left with
      | none => .ok ([], live)
      | some addr => do
          b.need addr
          return ([addr], live)
  | live, left, (separator, c) :: more => do
      let addr := left.getD (live.omitted b separator)
      b.need addr
      let (right, live) ← c.meaning b (live.pass addr separator)
      let right := if left = none ∧ right = none then some b.lineCount else right
      let (addrs, live) ← addressesFrom b live right more
      return (addr :: addrs, live)

/-- The range that addresses stand for: the last two, or the same one twice. Without any it is the
current line, or the line next to it if there is no command either. -/
def Live.range (b : Buffer) (live : Live) (command : Text) (addrs : List Nat) :
    Except EditorError (Nat × Nat) :=
  match addrs.getLast? with
  | some stop => .ok (addrs.dropLast.getLast?.getD stop, stop)
  | none =>
      if command = [] then
        if live.current + 1 < 0x10000000000000000 then do
          b.need (live.current + 1)
          return (live.current + 1, live.current + 1)
        else .error .addressOverflow
      else .ok (live.current, live.current)

def Chain.meaning (c : Chain) (command : Text) (b : Buffer) (current : Nat) (last : Option Regex) :
    Except EditorError Resolution := do
  let (first, live) ← c.first.meaning b ⟨current, last, false⟩
  let (addrs, live) ← addressesFrom b live first c.more
  let (start, stop) ← live.range b command addrs
  if start ≤ stop ∧ stop ≤ b.lineCount then
    return {
      start, stop
      rest := if command = [] then ['p'] else command
      current := live.current
      pattern := if live.fresh then live.pattern else none }
  else .error .invalidAddress

theorem isWord_iff (n : Int) : IsWord n ↔ -sumLimit ≤ n ∧ n < sumLimit := by
  rw [IsWord, sumLimit]

theorem signed_eq (n : Int) :
    signed n = if IsWord n then .ok n else .error .invalidAddress := by
  simp only [signed, isWord_iff]

theorem require_eq_need (b : Buffer) (addr : Nat) : b.require addr = b.need addr := by
  unfold Buffer.require Buffer.need
  simp only [Buffer.hasLine_iff]

namespace Offset

@[simp] theorem total_nil : total [] = 0 := rfl

@[simp] theorem total_cons (o : Offset) (offsets : List Offset) :
    total (o :: offsets) = o.amount + total offsets := rfl

theorem value_eq (o : Offset) :
    o.value = if IsWord o.count then .ok o.amount else .error .invalidAddress := by
  obtain ⟨sign, digits⟩ := o
  cases digits with
  | none => cases sign <;> rfl
  | some digits =>
      simp only [value, count, amount, signed_eq]
      by_cases word : IsWord (Text.number digits)
      · simp only [word, if_true]
        cases sign <;> rfl
      · simp only [word, if_false]
        rfl

end Offset

theorem fits_nil (here start : Int) : Fits here start [] ↔ IsWord start := by
  simp [Fits]

theorem fits_cons (here start : Int) (o : Offset) (offsets : List Offset) :
    Fits here start (o :: offsets) ↔
      IsWord here ∧ IsWord o.count ∧ IsWord start ∧ Fits here (start + o.amount) offsets := by
  simp only [Fits, List.inits, List.mem_cons, List.mem_map, forall_eq_or_imp, ne_eq, reduceCtorEq,
    not_false_eq_true, forall_const, forall_exists_index, and_imp, forall_apply_eq_imp_iff₂,
    Offset.total_nil, Offset.total_cons, Int.add_zero, Int.add_assoc]
  tauto

theorem Fits.start {here start : Int} {offsets : List Offset} (h : Fits here start offsets) :
    IsWord start := by
  cases offsets with
  | nil => exact (fits_nil _ _).mp h
  | cons o offsets => exact ((fits_cons _ _ _ _).mp h).2.2.1

theorem addOffsets_cons (current : Nat) (value : Option Int) (o : Offset)
    (offsets : List Offset) :
    addOffsets current value (o :: offsets) =
      if IsWord o.count ∧ IsWord current ∧ IsWord (value.getD current + o.amount) then
        addOffsets current (some (value.getD current + o.amount)) offsets
      else .error .invalidAddress := by
  simp only [addOffsets, Offset.value_eq, signed_eq]
  by_cases count : IsWord o.count
  · by_cases here : IsWord current
    · by_cases sum : IsWord (value.getD current + o.amount)
      · simp only [count, here, sum, if_true, ok_bind, and_self]
      · simp only [count, here, sum, if_true, if_false, ok_bind, error_bind, and_false]
    · simp only [count, here, if_true, if_false, ok_bind, error_bind, and_false, false_and]
  · simp only [count, if_false, error_bind, false_and]

theorem addOffsets_some (current : Nat) (start : Int) (word : IsWord start)
    (offsets : List Offset) :
    addOffsets current (some start) offsets =
      if Fits current start offsets then .ok (some (start + Offset.total offsets))
      else .error .invalidAddress := by
  induction offsets generalizing start with
  | nil => simp [addOffsets, fits_nil, word]
  | cons o offsets ih =>
      rw [addOffsets_cons, Option.getD_some]
      split
      · next words =>
        rw [ih _ words.2.2, Offset.total_cons, Int.add_assoc]
        simp only [fits_cons, words, word, true_and]
      · next words =>
        refine (if_neg fun fits => words ?_).symm
        obtain ⟨here, count, -, rest⟩ := (fits_cons ..).mp fits
        exact ⟨count, here, rest.start⟩

theorem addOffsets_none (current : Nat) {offsets : List Offset} (given : offsets ≠ []) :
    addOffsets current none offsets =
      if Fits current current offsets then .ok (some (current + Offset.total offsets))
      else .error .invalidAddress := by
  obtain ⟨o, offsets, rfl⟩ := List.exists_cons_of_ne_nil given
  by_cases here : IsWord current
  · rw [← addOffsets_some current current here, addOffsets_cons, addOffsets_cons]
    rfl
  · rw [addOffsets_cons, if_neg fun words => here words.2.1, if_neg fun fits => here fits.start]

def Progress.live (last : Option Regex) (p : Progress) : Live :=
  ⟨p.current, p.compiled.or last, p.compiled.isSome⟩

section

variable (b : Buffer) (last : Option Regex) (p : Progress)

theorem adopt_agree (source : Text) :
    Agree (fun q live => live = Progress.live last q) (p.adopt source)
      ((p.live last).adopt source) := by
  cases source with
  | nil => exact .ok rfl
  | cons c source =>
      simp only [Progress.adopt, Live.adopt, List.isEmpty_cons, Bool.false_eq_true, if_false,
        reduceCtorEq]
      cases Regex.compile false (c :: source) with
      | ok r => exact .ok rfl
      | error e => exact .error _

def checked (m : Nat × Live) : Except EditorError (Nat × Live) :=
  if IsWord m.1 then .ok m else .error .invalidAddress

theorem signed_agree (n : Nat) (q : Progress) :
    Agree (fun r m => ∃ n : Nat, IsWord n ∧ r.1 = (n : Int) ∧ m = (n, Progress.live last r.2))
      (signed n >>= fun n => .ok (n, q)) (checked (n, q.live last)) := by
  rw [signed_eq, checked]
  by_cases word : IsWord n
  · simp only [word, if_true, ok_bind]
    exact .ok ⟨n, word, rfl, rfl⟩
  · simp only [word, if_false, error_bind]
    exact .error _

theorem base_agree (base : Base) :
    Agree (fun r m => ∃ n : Nat, IsWord n ∧ r.1 = (n : Int) ∧ m = (n, Progress.live last r.2))
      (base.value b last p) (base.meaning b (p.live last) >>= checked) := by
  cases base with
  | number digits =>
      simp only [Base.value, Base.meaning, ok_bind]
      exact signed_agree last (Text.number digits) p
  | current =>
      simp only [Base.value, Base.meaning, ok_bind]
      exact signed_agree last p.current p
  | last =>
      simp only [Base.value, Base.meaning, ok_bind]
      exact signed_agree last b.lineCount p
  | pattern d source =>
      simp only [Base.value, Base.meaning, bind_assoc]
      refine (adopt_agree last p source).bind ?_
      rintro q _ rfl
      cases found : q.compiled.or last with
      | none =>
          simp only [Progress.live, found, error_bind]
          exact .error _
      | some r =>
          simp only [Progress.live, found, bind_assoc, pure_bind]
          refine (Agree.refl (b.search q.current d r.isMatch)).bind ?_
          rintro addr _ rfl
          rw [← found]
          exact signed_agree last addr q

theorem place_checked (offsets : List Offset) (m : Nat × Live) :
    (checked m >>= fun m => m.2.place m.1 offsets) = m.2.place m.1 offsets := by
  unfold checked
  by_cases word : IsWord m.1
  · simp only [word, if_true, ok_bind]
  · have unfit : ¬ Fits m.2.current m.1 offsets := fun fits => word fits.start
    simp only [Live.place, word, unfit, if_false, error_bind, false_and]

theorem place_agree (start : Int) (offsets : List Offset) {sum : Except EditorError (Option Int)}
    (h : sum = if Fits p.current start offsets then .ok (some (start + Offset.total offsets))
      else .error .invalidAddress) :
    Agree (fun r m => m = (r.1, Progress.live last r.2)) (sum >>= addressOf p)
      ((p.live last).place start offsets) := by
  have here : (p.live last).current = p.current := rfl
  rw [h, Live.place, here]
  by_cases fits : Fits p.current start offsets
  · cases sum : start + Offset.total offsets with
    | ofNat addr =>
        have positive : 0 ≤ Int.ofNat addr := Int.natCast_nonneg addr
        simp only [fits, positive, if_true, ok_bind, and_self]
        exact .ok rfl
    | negSucc n =>
        have negative : ¬ 0 ≤ Int.negSucc n := by omega
        simp only [fits, negative, if_true, if_false, ok_bind, and_false]
        exact .error _
  · simp only [fits, if_false, error_bind, false_and]
    exact .error _

theorem component_agree (c : Component) :
    Agree (fun r m => m = (r.1, Progress.live last r.2)) (c.value b last p)
      (c.meaning b (p.live last)) := by
  rw [c.value_eq, Component.start, Component.meaning]
  obtain ⟨base, offsets⟩ := c
  cases base with
  | some base =>
      have meaning : (base.meaning b (p.live last) >>= fun m => m.2.place m.1 offsets) =
          (base.meaning b (p.live last) >>= checked) >>= fun m => m.2.place m.1 offsets := by
        rw [bind_assoc]
        exact bind_congr fun m => (place_checked offsets m).symm
      simp only [bind_assoc, ok_bind]
      rw [meaning]
      refine (base_agree b last p base).bind ?_
      rintro ⟨_, q⟩ _ ⟨start, word, rfl, rfl⟩
      exact place_agree last q start offsets (addOffsets_some q.current start word offsets)
  | none =>
      simp only [ok_bind]
      by_cases given : offsets = []
      · subst given
        exact .ok rfl
      · rw [if_neg given]
        exact place_agree last p _ offsets (addOffsets_none p.current given)

def requireLast : Progress × List Nat × Option Nat → Except EditorError (Progress × List Nat)
  | (p, addrs, none) => .ok (p, addrs)
  | (p, addrs, some addr) => b.require addr >>= fun _ => .ok (p, addr :: addrs)

theorem evaluateMore_agree (addrs : List Nat) (left : Option Nat)
    (more : List (Separator × Component)) :
    Agree (fun r m => r.2 = m.1.reverse ++ addrs ∧ m.2 = Progress.live last r.1)
      (evaluateMore b last p addrs left more >>= requireLast b)
      (addressesFrom b (p.live last) left more) := by
  -- a left side belongs to the separator behind it, so it is required one step later than it is read
  induction more generalizing p addrs left with
  | nil =>
      cases left with
      | none => exact .ok ⟨rfl, rfl⟩
      | some addr =>
          simp only [evaluateMore, addressesFrom, ok_bind, requireLast, require_eq_need]
          refine (Agree.refl (b.need addr)).bind fun _ _ _ => .ok ⟨rfl, rfl⟩
  | cons step more ih =>
      obtain ⟨separator, c⟩ := step
      simp only [evaluateMore, addressesFrom, require_eq_need, bind_assoc]
      have omitted : (p.live last).omitted b separator = separator.missing b p := by
        cases separator <;> rfl
      have passed (addr : Nat) : (p.live last).pass addr separator =
          (separator.move addr p).live last := by
        cases separator <;> rfl
      rw [omitted]
      generalize left.getD (separator.missing b p) = addr
      rw [passed]
      refine (Agree.refl (b.need addr)).bind fun _ _ _ => ?_
      refine (component_agree b last (separator.move addr p) c).bind ?_
      rintro ⟨right, q⟩ _ rfl
      have next : (if (left.isNone && right.isNone) = true then some b.lineCount else right) =
          if left = none ∧ right = none then some b.lineCount else right := by
        simp
      rw [next]
      refine (ih q (addr :: addrs) _).bind_right ?_
      rintro ⟨_, _⟩ ⟨later, live⟩ ⟨listed, moved⟩
      refine .ok ⟨?_, moved⟩
      dsimp only at listed ⊢
      rw [listed, List.reverse_cons, List.append_assoc, List.singleton_append]

theorem Chain.evaluate_eq (c : Chain) (noStray : c.stray = false) :
    c.evaluate b last p = c.first.value b last p >>= fun r =>
      evaluateMore b last r.2 [] r.1 c.more >>= requireLast b := by
  unfold Chain.evaluate
  refine bind_congr fun r => bind_congr fun ⟨q, addrs, pending⟩ => ?_
  simp only [noStray, Bool.false_eq_true, if_false]
  cases pending <;> rfl

theorem chain_agree (c : Chain) (noStray : c.stray = false) :
    Agree (fun r m => r.2 = m.1.reverse ∧ m.2 = Progress.live last r.1) (c.evaluate b last p)
      (c.first.meaning b (p.live last) >>= fun m => addressesFrom b m.2 m.1 c.more) := by
  rw [c.evaluate_eq b last p noStray]
  refine (component_agree b last p c.first).bind ?_
  rintro ⟨left, q⟩ _ rfl
  simpa only [List.append_nil] using evaluateMore_agree b last q [] left c.more

theorem range_agree (command : Text) (addrs : List Nat) :
    chooseRange b p.current command addrs.reverse = (p.live last).range b command addrs := by
  obtain ⟨latest, rfl⟩ : ∃ latest, addrs = latest.reverse := ⟨addrs.reverse, by simp⟩
  rw [List.reverse_reverse, Live.range, List.getLast?_reverse, List.dropLast_reverse,
    List.getLast?_reverse]
  match latest with
  | [] =>
      have limit : addressLimit = 0x10000000000000000 := rfl
      simp only [List.head?_nil, chooseRange, List.isEmpty_iff, limit, require_eq_need]
      rfl
  | [addr] => rfl
  | addr :: before :: _ => rfl

end

/-- However a chain of addresses is written, and whatever command follows, resolving the line gives
what the chain means. -/
theorem resolve_written {c : Chain} {written command : Text} (h : c.Written written)
    (free : Text.Free isAddressChar command) (b : Buffer) (current : Nat) (last : Option Regex) :
    resolve (written ++ command) b current last = c.meaning command b current last := by
  have noStray : c.stray = false := by
    cases h
    rfl
  have agree := chain_agree b last ⟨current, none⟩ c noStray
  apply Agree.eq
  unfold resolve Chain.meaning
  rw [Addresses.read_written h free]
  dsimp only [Addresses.evaluate]
  rw [← bind_assoc]
  refine agree.bind ?_
  rintro ⟨q, _⟩ ⟨addrs, live⟩ ⟨listed, moved⟩
  dsimp only at listed moved ⊢
  subst listed moved
  rw [range_agree b last q command addrs]
  refine (Agree.refl _).bind ?_
  rintro ⟨start, stop⟩ _ rfl
  have compiled : (if (q.live last).fresh then (q.live last).pattern else none) = q.compiled := by
    obtain ⟨current, _ | r⟩ := q <;> rfl
  have rest : (if command = [] then ['p'] else command) = orPrint command := by
    simp only [orPrint, List.isEmpty_iff]
  rw [compiled, rest]
  exact Agree.refl _

theorem resolve_written_offsets :
    let b : Buffer := ⟨[['a'], ['b'], ['c', '/'], ['d']]⟩
    let c : Chain := ⟨⟨some (.number ['1']), []⟩,
      [(.semicolon, ⟨some (.pattern .forward ['/']), [⟨.minus, none⟩]⟩), (.comma, ⟨none, []⟩)],
      false⟩
    let written : Text := [' ', '1', ' ', ';', ' ', '/', '\\', '/', '/', ' ', '-', '\t', ',', ' ']
    c.Written written ∧ resolve (written ++ ['p']) b 4 none = c.meaning ['p'] b 4 none ∧
      (c.meaning ['p'] b 4 none).map (fun r => (r.start, r.stop, r.rest, r.current)) =
        .ok (1, 2, ['p'], 1) := by
  intro b c written
  have space : Text.Blank [' '] := by decide
  have tab : Text.Blank ['\t'] := by decide
  have first : Component.Written ⟨some (.number ['1']), []⟩ ['1', ' '] :=
    .based (.number (by decide)) space .nil
  have second : Component.Written ⟨some (.pattern .forward ['/']), [⟨.minus, none⟩]⟩
      ['/', '\\', '/', '/', ' ', '-', '\t'] :=
    .based (.pattern .forward (.delimiter .nil)) space (.cons (.alone .minus) tab .nil)
  have chain : c.Written written :=
    .mk space first (.cons .semicolon space second (.cons .comma space (.offsets .nil) .nil))
  exact ⟨chain, resolve_written chain (by decide) b 4 none, by decide +kernel⟩

end LineEditor
