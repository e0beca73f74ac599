import LineEditor.Proofs.Address.Exact
import LineEditor.Proofs.Address.Syntax
import LineEditor.Proofs.Buffer

/-! Where the arithmetic of addresses overflows. Nothing but the largest address has a sum that
does: the line next to it, which a blank line asks for, and the end of a range that ends there. All
other numbers are words, or are checked and refused. -/
namespace LineEditor

section

variable {b : Buffer} {last : Option Regex} {p q : Progress}

theorem addOffsets_absent {current : Nat} {value : Option Int} {offsets : List Offset}
    (absent : addOffsets current value offsets = .ok none) : value = none ∧ offsets = [] := by
  induction offsets generalizing value with
  | nil =>
      cases absent
      exact ⟨rfl, rfl⟩
  | cons o offsets ih =>
      obtain ⟨_, -, absent⟩ := of_bind_ok absent
      obtain ⟨_, -, absent⟩ := of_bind_ok absent
      obtain ⟨_, -, absent⟩ := of_bind_ok absent
      cases (ih absent).1

theorem Component.value_absent {c : Component} (absent : c.value b last p = .ok (none, q)) :
    c = ⟨none, []⟩ ∧ q = p := by
  rw [c.value_eq] at absent
  obtain ⟨base, offsets⟩ := c
  obtain ⟨⟨start, after⟩, started, absent⟩ := of_bind_ok absent
  obtain ⟨sum, added, absent⟩ := of_bind_ok absent
  have nothing : sum = none ∧ after = q := by
    cases sum with
    | none =>
        cases absent
        exact ⟨rfl, rfl⟩
    | some n => cases n <;> cases absent
  obtain ⟨rfl, rfl⟩ := nothing
  obtain ⟨rfl, rfl⟩ := addOffsets_absent added
  cases base with
  | none =>
      cases started
      exact ⟨rfl, rfl⟩
  | some base =>
      obtain ⟨_, -, started⟩ := of_bind_ok started
      cases started

theorem Addresses.evaluate_absent {a : Addresses} (absent : a.evaluate b last p = .ok (q, [])) :
    a = .chain ⟨⟨none, []⟩, [], false⟩ ∧ q = p := by
  cases a with
  | whole => cases absent
  | chain c =>
      obtain ⟨first, more, stray⟩ := c
      obtain ⟨⟨value, after⟩, began, absent⟩ := of_bind_ok absent
      obtain ⟨⟨behind, addrs, pending⟩, reached, absent⟩ := of_bind_ok absent
      have length := length_evaluateMore reached
      dsimp only at began reached length absent
      cases stray with
      | true => cases absent
      | false =>
          cases pending with
          | some addr =>
              obtain ⟨_, -, absent⟩ := of_bind_ok absent
              cases absent
          | none =>
              cases absent
              obtain rfl : more = [] :=
                List.eq_nil_of_length_eq_zero (length.trans (Nat.zero_add _)).symm
              cases reached
              obtain ⟨rfl, rfl⟩ := Component.value_absent began
              exact ⟨rfl, rfl⟩

end

theorem chooseRange_overflow_iff {b : Buffer} {current : Nat} {rest : Text} {addrs : List Nat} :
    chooseRange b current rest addrs = .error .addressOverflow ↔
      addrs = [] ∧ rest = [] ∧ addressLimit ≤ current + 1 := by
  cases addrs with
  | cons addr addrs => cases addrs <;> exact ⟨nofun, nofun⟩
  | nil =>
      cases rest with
      | cons c rest => exact ⟨nofun, nofun⟩
      | nil =>
          simp only [chooseRange, List.isEmpty_nil, if_true, true_and]
          by_cases word : current + 1 < addressLimit
          · rw [if_pos word]
            refine ⟨fun overflow => ?_, fun large => absurd word (Nat.not_lt.mpr large)⟩
            rcases of_bind_error overflow with required | ⟨_, -, overflow⟩
            · exact absurd required (b.require_noOverflow _)
            · cases overflow
          · rw [if_neg word]
            exact ⟨fun _ => Nat.not_lt.mp word, fun _ => rfl⟩

theorem chooseExactly_inWords (b : Buffer) (current : Nat) (rest : Text) (addrs : List Nat) :
    (chooseExactly b current rest addrs).inWords = chooseRange b current rest addrs := by
  match addrs, rest with
  | [_], _ => rfl
  | _ :: _ :: _, _ => rfl
  | [], _ :: _ => rfl
  | [], [] =>
      have next : (Exact.counted (current + 1)).inWords = _ := Exact.inWords_counted (current + 1)
      rw [chooseExactly, List.isEmpty_nil, if_pos rfl, Exact.inWords_bind, next]
      simp only [chooseRange, List.isEmpty_nil, if_true]
      split
      · rw [ok_bind, Exact.inWords_bind]
        rfl
      · rfl

section

variable {b : Buffer} (counted : b.lineCount < addressLimit) {text : Text}
  (typed : text.length + 1 < addressLimit) (current : Nat) (last : Option Regex)

include counted typed

theorem read_yields :
    ((Addresses.read text).1.exactly b last ⟨current, none⟩).Yields
      ((Addresses.read text).1.evaluate b last ⟨current, none⟩) := by
  refine Addresses.exactly_yields counted last _ _ fun c read => ?_
  have shorter : c.more.length ≤ text.length := Addresses.length_more_le (Prod.ext read rfl)
  omega

theorem resolveExactly_inWords :
    (resolveExactly text b current last).inWords = resolve text b current last := by
  unfold resolveExactly resolve
  rw [Exact.inWords_bind, (read_yields counted typed current last).inWords]
  refine bind_congr fun r => ?_
  rw [Exact.inWords_bind, chooseExactly_inWords]
  refine bind_congr fun range => ?_
  dsimp only
  split <;> rfl

/-- Blanks on the largest address are the only command line whose addresses overflow. -/
theorem resolve_overflow_iff :
    resolve text b current last = .error .addressOverflow ↔
      Text.Blank text ∧ addressLimit ≤ current + 1 := by
  constructor
  · intro overflow
    have noOverflow := (read_yields counted typed current last).noOverflow
    obtain ⟨gap, split, blank⟩ := text.exists_blanks
    unfold resolve at overflow
    cases read : Addresses.read text with
    | mk a rest =>
        rw [read] at noOverflow overflow
        rcases of_bind_error overflow with failed | ⟨⟨p, addrs⟩, evaluated, overflow⟩
        · exact absurd failed noOverflow
        · rcases of_bind_error overflow with chosen | ⟨range, -, overflow⟩
          · obtain ⟨rfl, rfl, large⟩ := chooseRange_overflow_iff.mp chosen
            obtain ⟨rfl, rfl⟩ := Addresses.evaluate_absent evaluated
            rw [← Addresses.read_absent read, List.append_nil] at split
            exact ⟨split ▸ blank, large⟩
          · dsimp only at overflow
            split at overflow <;> cases overflow
  · rintro ⟨blank, large⟩
    have chosen := (@chooseRange_overflow_iff b).mpr ⟨rfl, rfl, large⟩
    have evaluated : Addresses.evaluate b last ⟨current, none⟩ (.chain ⟨⟨none, []⟩, [], false⟩) =
        .ok (⟨current, none⟩, []) := rfl
    unfold resolve
    rw [Addresses.read_blanks blank]
    dsimp only
    rw [evaluated, ok_bind]
    dsimp only
    rw [chosen, error_bind]

end

namespace Buffer

theorem linesIn?_overflow_iff {b : Buffer} {start stop : Nat} :
    b.linesIn? start stop = .error .addressOverflow ↔ addressLimit ≤ stop + 1 := by
  unfold linesIn?
  by_cases inner : stop + 1 < addressLimit
  · rw [if_pos inner]
    exact ⟨nofun, fun outer => absurd inner (Nat.not_lt.mpr outer)⟩
  · rw [if_neg inner]
    exact ⟨fun _ => Nat.not_lt.mp inner, fun _ => rfl⟩

def IsListing (b : Buffer) (start stop : Nat) (found : List (Nat × Text)) : Prop :=
  found.Pairwise (fun here behind => here.1 < behind.1) ∧
    ∀ addr line, (addr, line) ∈ found ↔ start ≤ addr ∧ addr ≤ stop ∧ b.getLine addr = some line

theorem map_fst_numberFrom (first : Nat) (lines : List Text) :
    (numberFrom first lines).map Prod.fst = List.range' first lines.length := by
  induction lines generalizing first with
  | nil => rfl
  | cons line lines ih => rw [numberFrom, List.map_cons, ih, List.length_cons, List.range'_succ]

theorem mem_numberFrom_iff {first addr : Nat} {line : Text} {lines : List Text} :
    (addr, line) ∈ numberFrom first lines ↔ first ≤ addr ∧ lines[addr - first]? = some line := by
  induction lines generalizing first with
  | nil => simp [numberFrom]
  | cons other lines ih =>
      rw [numberFrom, List.mem_cons, ih, Prod.mk.injEq]
      rcases Nat.lt_trichotomy addr first with before | rfl | behind
      · omega
      · have later : ¬ addr + 1 ≤ addr := by omega
        simp only [later, false_and, or_false, true_and, Nat.le_refl, Nat.sub_self,
          List.getElem?_cons_zero, Option.some.injEq, eq_comm]
      · have place : addr - first = addr - (first + 1) + 1 := by omega
        simp [place, Nat.ne_of_gt behind, Nat.le_of_lt behind, Nat.succ_le_of_lt behind]

theorem isListing_linesIn (b : Buffer) (start stop : Nat) :
    b.IsListing start stop (b.linesIn start stop) := by
  constructor
  · have ascending : (((b.linesIn start stop).map Prod.fst).Pairwise (· < ·)) := by
      rw [linesIn, map_fst_numberFrom]
      exact List.pairwise_lt_range'
    exact List.pairwise_map.mp ascending
  · intro addr line
    rw [linesIn, mem_numberFrom_iff, List.getElem?_take, List.getElem?_drop]
    cases addr with
    | zero => simp [getLine]
    | succ n =>
        rw [getLine_succ]
        by_cases reached : max start 1 ≤ n + 1
        · have place : max start 1 - 1 + (n + 1 - max start 1) = n := by omega
          have first : start ≤ n + 1 := by omega
          have length : n + 1 - max start 1 < stop + 1 - max start 1 ↔ n + 1 ≤ stop := by omega
          simp [place, first, length, reached]
        · have before : ¬ start ≤ n + 1 := by omega
          simp [reached, before]

def numberExactly : Nat → List Text → Exact (List (Nat × Text))
  | _, [] => return []
  | front, line :: lines => do
      let addr ← Exact.counted (front + 1)
      let others ← numberExactly (front + 1) lines
      return (addr, line) :: others

def linesExactly (b : Buffer) (start stop : Nat) : Exact (List (Nat × Text)) := do
  let front ← Exact.counted ((max start 1 : Nat) - 1)
  let behind ← Exact.counted (stop + 1)
  numberExactly front ((b.lines.drop front).take (behind - max start 1))

theorem numberExactly_yields {front : Nat} {lines : List Text}
    (short : front + lines.length < addressLimit) :
    (numberExactly front lines).Yields (.ok (numberFrom (front + 1) lines)) := by
  induction lines generalizing front with
  | nil => exact .ok []
  | cons line lines ih =>
      rw [List.length_cons] at short
      refine (Exact.Yields.counted (n := front + 1) (by omega)).bind_ok ?_
      exact (ih (by omega)).bind_ok (.ok _)

theorem linesExactly_inWords {b : Buffer} (counted : b.lineCount < addressLimit) {start : Nat}
    (word : start < addressLimit) (stop : Nat) :
    (b.linesExactly start stop).inWords = b.linesIn? start stop := by
  have one : 1 < addressLimit := by decide
  have front : (Exact.counted ((max start 1 : Nat) - 1)).Yields (.ok (max start 1 - 1)) := by
    have cast : ((max start 1 : Nat) : Int) - 1 = (max start 1 - 1 : Nat) := by omega
    rw [cast]
    exact .counted (by omega)
  have behind : (Exact.counted (stop + 1)).inWords = _ := Exact.inWords_counted (stop + 1)
  have lines : ((b.lines.drop (max start 1 - 1)).take (stop + 1 - max start 1)).length ≤
      b.lines.length - (max start 1 - 1) := by
    rw [List.length_take, List.length_drop]
    omega
  unfold lineCount at counted
  rw [linesExactly, Exact.inWords_bind, front.inWords, ok_bind, Exact.inWords_bind, behind,
    linesIn?, linesIn]
  by_cases last : stop + 1 < addressLimit
  · have first : max start 1 - 1 + 1 = max start 1 := by omega
    rw [if_pos last, if_pos last, ok_bind, (numberExactly_yields (by omega)).inWords, first]
  · rw [if_neg last, if_neg last, error_bind]

end Buffer

/-- In words addresses are worked out exactly or refused: a number that is checked and too large
makes the address invalid. Of the numbers that nobody checks, none is too large but the line next to
the largest address, for a line of blanks, and the end of a range that ends at it. -/
theorem resolve_linesIn_inWords {b : Buffer} (counted : b.lineCount < addressLimit) :
    (∀ (text : Text) (current : Nat) (last : Option Regex), text.length + 1 < addressLimit →
      current < addressLimit →
      resolve text b current last = (resolveExactly text b current last).inWords ∧
      (resolve text b current last = .error .addressOverflow ↔
        Text.Blank text ∧ current + 1 = addressLimit) ∧
      (¬ (Text.Blank text ∧ current + 1 = addressLimit) →
        ∀ n ∈ (resolveExactly text b current last).formed, ¬ n.InRange →
          resolve text b current last = .error .invalidAddress)) ∧
    ∀ start stop, start < addressLimit → stop < addressLimit →
      b.linesIn? start stop = (b.linesExactly start stop).inWords ∧
      (b.linesIn? start stop = .error .addressOverflow ↔ stop + 1 = addressLimit) ∧
      (stop + 1 ≠ addressLimit →
        ∃ found, b.linesIn? start stop = .ok found ∧ b.IsListing start stop found) := by
  have largest {n : Nat} (word : n < addressLimit) : addressLimit ≤ n + 1 ↔ n + 1 = addressLimit := by
    omega
  refine ⟨fun text current last typed word => ?_, fun start stop first word => ?_⟩
  · have exactly := resolveExactly_inWords counted typed current last
    have overflow : resolve text b current last = .error .addressOverflow ↔
        Text.Blank text ∧ current + 1 = addressLimit := by
      rw [resolve_overflow_iff counted typed current last, largest word]
    refine ⟨exactly.symm, overflow, fun other n member misfit => ?_⟩
    rw [← overflow, ← exactly] at other
    rw [← exactly]
    exact Exact.inWords_of_misfit member misfit other
  · refine ⟨(Buffer.linesExactly_inWords counted first stop).symm, ?_, fun other => ?_⟩
    · rw [Buffer.linesIn?_overflow_iff, largest word]
    · exact ⟨_, if_pos (by omega), b.isListing_linesIn start stop⟩

theorem resolve_linesIn_inWords_largest :
    let b : Buffer := ⟨[['a'], ['b']]⟩
    let largest := addressLimit - 1
    b.lineCount < addressLimit ∧ largest < addressLimit ∧
      resolve [] b largest none = .error .addressOverflow ∧
      resolve ['+'] b largest none = .error .invalidAddress ∧
      b.linesIn? 2 largest = .error .addressOverflow ∧
      ∃ found, b.linesIn? 2 (largest - 1) = .ok found ∧ b.IsListing 2 (largest - 1) found := by
  intro b largest
  have counted : b.lineCount < addressLimit := by decide
  have word : largest < addressLimit := by decide
  obtain ⟨resolved, listed⟩ := resolve_linesIn_inWords counted
  obtain ⟨-, blank, -⟩ := resolved [] largest none (by decide) word
  obtain ⟨-, -, sign⟩ := resolved ['+'] largest none (by decide) word
  obtain ⟨-, range, -⟩ := listed 2 largest (by decide) word
  obtain ⟨-, -, inner⟩ := listed 2 (largest - 1) (by decide) (by decide)
  have converted : Formed.checked largest ∈ (resolveExactly ['+'] b largest none).formed :=
    List.mem_cons_self
  exact ⟨counted, word, blank.mpr (by decide), sign (by decide) _ converted (by decide),
    range.mpr (by decide), inner (by decide)⟩

/-- A blank line at the largest address overflows, and so does a range that ends there. -/
theorem largest_address_overflows :
    (¬ ∀ (text : Text) (b : Buffer) (current : Nat) (last : Option Regex), current < addressLimit →
      resolve text b current last ≠ .error .addressOverflow) ∧
    ¬ ∀ (b : Buffer) (start stop : Nat), start < addressLimit → stop < addressLimit →
      ∃ found, b.linesIn? start stop = .ok found := by
  constructor
  · intro never
    have overflow : resolve [] ⟨[]⟩ (addressLimit - 1) none = .error .addressOverflow := rfl
    exact never [] ⟨[]⟩ (addressLimit - 1) none (by decide) overflow
  · intro always
    obtain ⟨found, listed⟩ := always ⟨[['a']]⟩ 1 (addressLimit - 1) (by decide) (by decide)
    have overflow : Buffer.linesIn? ⟨[['a']]⟩ 1 (addressLimit - 1) = .error .addressOverflow := rfl
    cases listed.symm.trans overflow

end LineEditor
