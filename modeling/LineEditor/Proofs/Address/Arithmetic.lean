import LineEditor.Proofs.Address.Meaning

/-! The arithmetic of a single address. Its digits may be of any length and its sums of any sign on
the way, and the address that comes out is the exact one; what a word with a sign cannot hold is
refused, and never wraps. -/
namespace LineEditor

namespace Component

def origin (b : Buffer) (current : Nat) (c : Component) : Option Nat :=
  match c.base with
  | none => some current
  | some .current => some current
  | some .last => some b.lineCount
  | some (.number digits) => some (Text.number digits)
  | some (.pattern _ _) => none

def digits (c : Component) : Option Text :=
  match c.base with
  | some (.number digits) => some digits
  | _ => none

def runs (c : Component) : List Text := c.digits.toList ++ c.offsets.filterMap Offset.digits

end Component

def Offset.sums : Int → List Offset → List Int
  | start, [] => [start]
  | start, o :: offsets => start :: sums (start + o.amount) offsets

/-- What makes a component the address of a line: its numbers are words, so are the sums on the way,
and the last sum is an address of the document. -/
structure Component.Denotes (b : Buffer) (origin : Nat) (c : Component) (addr : Nat) : Prop where
  runs : ∀ run ∈ c.runs, Text.number run < 0x8000000000000000
  sums : ∀ sum ∈ Offset.sums origin c.offsets, IsWord sum
  total : (Offset.sums origin c.offsets).getLast? = some (addr : Int)
  line : b.HasLine addr

namespace Offset

theorem sums_eq (start : Int) (offsets : List Offset) :
    sums start offsets = offsets.inits.map fun done => start + total done := by
  induction offsets generalizing start with
  | nil => simp [sums]
  | cons o offsets ih =>
      rw [sums, ih, List.inits, List.map_cons, List.map_map, total_nil, Int.add_zero]
      refine congrArg (start :: ·) (List.map_congr_left fun done _ => ?_)
      rw [Function.comp_apply, total_cons, Int.add_assoc]

theorem getLast?_sums (start : Int) (offsets : List Offset) :
    (sums start offsets).getLast? = some (start + total offsets) := by
  induction offsets generalizing start with
  | nil => simp [sums]
  | cons o offsets ih =>
      rw [sums, List.getLast?_cons, ih, total_cons, Int.add_assoc]
      rfl

end Offset

theorem isWord_natCast (n : Nat) : IsWord n ↔ n < 0x8000000000000000 := by
  unfold IsWord
  omega

section

variable {b : Buffer} {current origin addr : Nat} {last : Option Regex} {c : Component}
  {text command : Text}

theorem forall_count_iff (offsets : List Offset) :
    (∀ o ∈ offsets, IsWord o.count) ↔
      ∀ run ∈ offsets.filterMap Offset.digits, Text.number run < 0x8000000000000000 := by
  simp only [List.mem_filterMap, isWord_natCast]
  constructor
  · rintro small run ⟨⟨sign, _⟩, member, rfl⟩
    exact small _ member
  · rintro small ⟨sign, digits⟩ member
    cases digits with
    | none => exact Nat.one_lt_two_pow (n := 63) (by decide)
    | some run => exact small run ⟨_, member, rfl⟩

theorem Component.origin_of_digits {run : Text} (given : c.digits = some run) (b : Buffer)
    (current : Nat) : c.origin b current = some (Text.number run) := by
  obtain ⟨base, offsets⟩ := c
  cases base with
  | none => cases given
  | some base =>
      cases base with
      | number digits =>
          cases given
          rfl
      | current => cases given
      | last => cases given
      | pattern d source => cases given

theorem fits_iff (here : IsWord current) (starts : c.origin b current = some origin) :
    Fits current origin c.offsets ↔
      (∀ run ∈ c.runs, Text.number run < 0x8000000000000000) ∧
        ∀ sum ∈ Offset.sums origin c.offsets, IsWord sum := by
  have based (fits : Fits current origin c.offsets) (run : Text) (given : run ∈ c.digits.toList) :
      Text.number run < 0x8000000000000000 := by
    have number := Component.origin_of_digits (Option.mem_toList.mp given) b current
    rw [starts, Option.some.injEq] at number
    rw [← number, ← isWord_natCast]
    exact fits.start
  rw [Offset.sums_eq, Component.runs, List.forall_mem_append, ← forall_count_iff,
    List.forall_mem_map]
  exact ⟨fun fits => ⟨⟨based fits, fits.2.1⟩, fits.2.2⟩,
    fun ⟨⟨_, counts⟩, sums⟩ => ⟨fun _ => here, counts, sums⟩⟩

theorem meaning_of_origin (starts : c.origin b current = some origin) (parts : c ≠ ⟨none, []⟩)
    (live : Live) (here : live.current = current) :
    c.meaning b live = live.place origin c.offsets := by
  obtain ⟨base, offsets⟩ := c
  subst here
  cases base with
  | none =>
      have given : offsets ≠ [] := fun none => parts (by rw [none])
      cases starts
      exact if_neg given
  | some base =>
      cases base with
      | number digits =>
          cases starts
          rfl
      | current =>
          cases starts
          rfl
      | last =>
          cases starts
          rfl
      | pattern d source => cases starts

theorem eq_of_live {p : Progress} (same : p.live last = Progress.live last ⟨current, none⟩) :
    p = ⟨current, none⟩ := by
  obtain ⟨here, compiled⟩ := p
  obtain rfl : here = current := congrArg Live.current same
  have nothing : compiled.isSome = false := congrArg Live.fresh same
  rw [Option.isSome_eq_false_iff, Option.isNone_iff_eq_none] at nothing
  rw [nothing]

theorem value_of_origin (starts : c.origin b current = some origin) (parts : c ≠ ⟨none, []⟩) :
    c.value b last ⟨current, none⟩ =
      if Fits current origin c.offsets ∧ 0 ≤ origin + Offset.total c.offsets then
        .ok (some (origin + Offset.total c.offsets).toNat, ⟨current, none⟩)
      else .error .invalidAddress := by
  have agree := component_agree b last ⟨current, none⟩ c
  rw [meaning_of_origin starts parts _ rfl, Live.place] at agree
  have here : (Progress.live last ⟨current, none⟩).current = current := rfl
  rw [here] at agree
  by_cases fits : Fits current origin c.offsets ∧ 0 ≤ origin + Offset.total c.offsets
  · rw [if_pos fits] at agree ⊢
    obtain ⟨r, found, same⟩ := agree.of_ok
    obtain ⟨sum, moved⟩ := Prod.mk.inj same
    rw [found, sum, ← eq_of_live moved.symm]
  · rw [if_neg fits] at agree ⊢
    exact agree.of_error

theorem denotes_iff (here : IsWord current) (starts : c.origin b current = some origin) :
    c.Denotes b origin addr ↔
      Fits current origin c.offsets ∧ origin + Offset.total c.offsets = addr ∧ b.HasLine addr := by
  rw [fits_iff here starts]
  constructor
  · rintro ⟨runs, sums, total, line⟩
    rw [Offset.getLast?_sums, Option.some.injEq] at total
    exact ⟨⟨runs, sums⟩, total, line⟩
  · rintro ⟨⟨runs, sums⟩, total, line⟩
    exact ⟨runs, sums, by rw [Offset.getLast?_sums, total], line⟩

variable (read : Addresses.read text = (.chain ⟨c, [], false⟩, command))

include read

theorem resolve_denoted (here : IsWord current) (inside : current ≤ b.lineCount)
    (starts : c.origin b current = some origin) (given : command ≠ [])
    (denoted : c.Denotes b origin addr) :
    resolve text b current last = .ok ⟨addr, addr, command, current, none⟩ := by
  obtain ⟨fits, total, line⟩ := (denotes_iff here starts).mp denoted
  by_cases parts : c = ⟨none, []⟩
  · subst parts
    cases starts
    obtain rfl : current = addr := by
      rw [Offset.total_nil, Int.add_zero] at total
      exact Int.ofNat.inj total
    exact (resolve_lone_nothing read rfl given).trans (if_pos inside)
  · have positive : 0 ≤ origin + Offset.total c.offsets := by omega
    have value := @value_of_origin b current origin last c starts parts
    rw [if_pos ⟨fits, positive⟩, total, Int.toNat_natCast] at value
    have command : orPrint command = command := by simp [orPrint, given]
    rw [resolve_lone_address read value, if_pos line, command]

theorem resolve_undenoted (here : IsWord current) (valid : b.HasLine current)
    (starts : c.origin b current = some origin)
    (nowhere : ∀ addr, ¬ c.Denotes b origin addr) :
    resolve text b current last = .error .invalidAddress := by
  by_cases parts : c = ⟨none, []⟩
  · subst parts
    cases starts
    refine absurd ((denotes_iff here rfl).mpr ⟨?_, ?_, valid⟩) (nowhere current)
    · exact (fits_nil _ _).mpr here
    · rw [Offset.total_nil, Int.add_zero]
  · have value := @value_of_origin b current origin last c starts parts
    by_cases sums : Fits current origin c.offsets ∧ 0 ≤ origin + Offset.total c.offsets
    · rw [if_pos sums] at value
      rw [resolve_lone_address read value]
      refine if_neg fun line => nowhere _ ((denotes_iff here starts).mpr ⟨sums.1, ?_, line⟩)
      exact (Int.toNat_of_nonneg sums.2).symm
    · rw [if_neg sums] at value
      exact resolve_lone_refused read value

end

/-- A single address is exact or refused. A component that starts from the current line, the last
line or digits resolves to the last of its sums, if its numbers and all its sums are words and the
document has the line; in every other case the address is invalid. -/
theorem resolve_component {c : Component} {written command : Text}
    (h : (Chain.mk c [] false).Written written) (free : Text.Free isAddressChar command)
    (given : command ≠ []) {b : Buffer} (small : b.lineCount < 0x8000000000000000)
    {current : Nat} (valid : b.HasLine current) {origin : Nat}
    (starts : c.origin b current = some origin) (last : Option Regex) :
    (∀ addr, resolve (written ++ command) b current last =
        .ok ⟨addr, addr, command, current, none⟩ ↔ c.Denotes b origin addr) ∧
      ((∀ addr, ¬ c.Denotes b origin addr) →
        resolve (written ++ command) b current last = .error .invalidAddress) := by
  have inside : current ≤ b.lineCount :=
    ((b.holds_iff current).mp ((b.hasLine_iff current).mp valid)).1
  have here : IsWord current := (isWord_natCast current).mpr (by omega)
  have read := Addresses.read_written h free
  have denoted {addr : Nat} (h : c.Denotes b origin addr) :
      resolve (written ++ command) b current last = .ok ⟨addr, addr, command, current, none⟩ :=
    resolve_denoted read here inside starts given h
  have undenoted : (∀ addr, ¬ c.Denotes b origin addr) →
      resolve (written ++ command) b current last = .error .invalidAddress :=
    resolve_undenoted read here valid starts
  refine ⟨fun addr => ⟨fun resolved => ?_, denoted⟩, undenoted⟩
  by_cases found : ∃ other, c.Denotes b origin other
  · obtain ⟨other, h⟩ := found
    cases (denoted h).symm.trans resolved
    exact h
  · cases (undenoted fun other h => found ⟨other, h⟩).symm.trans resolved

/-- The largest word less itself, less one and plus three is line 2, by way of a sum below zero. The
largest word plus one is too large, though less the largest word it would be line 1. -/
theorem resolve_component_largest :
    let most : Text := ['9', '2', '2', '3', '3', '7', '2', '0', '3', '6', '8', '5', '4', '7', '7',
      '5', '8', '0', '7']
    let taken : Component :=
      ⟨some (.number ('0' :: most)), [⟨.minus, some most⟩, ⟨.minus, none⟩, ⟨.plus, some ['3']⟩]⟩
    let refused : Component := ⟨some (.number most), [⟨.plus, none⟩, ⟨.minus, some most⟩]⟩
    let b : Buffer := ⟨[['a'], ['b'], ['c']]⟩
    (Chain.mk taken [] false).Written ('0' :: most ++ ['-', ' '] ++ most ++ ['-', '+', '3']) ∧
      (Chain.mk refused [] false).Written (most ++ ['+', '-'] ++ most) ∧
      Text.Free isAddressChar ['p'] ∧ b.HasLine 1 ∧
      taken.origin b 1 = some 0x7fffffffffffffff ∧ taken.Denotes b 0x7fffffffffffffff 2 ∧
      resolve ('0' :: most ++ ['-', ' '] ++ most ++ ['-', '+', '3', 'p']) b 1 none =
        .ok ⟨2, 2, ['p'], 1, none⟩ ∧
      (∀ addr, ¬ refused.Denotes b 0x7fffffffffffffff addr) ∧
      resolve (most ++ ['+', '-'] ++ most ++ ['p']) b 1 none = .error .invalidAddress := by
  intro most taken refused b
  have free : Text.Free isAddressChar ['p'] := by decide
  have run : Text.IsRun most := by decide
  have first : b.HasLine 1 := by decide
  have nothing : Text.Blank [] := by decide
  have space : Text.Blank [' '] := by decide
  have denoted : taken.Denotes b 0x7fffffffffffffff 2 :=
    ⟨by decide +kernel, by decide +kernel, by decide +kernel, by decide⟩
  have above : ¬ ∀ sum ∈ Offset.sums 0x7fffffffffffffff refused.offsets, IsWord sum := by
    decide +kernel
  have takenWritten : Chain.Written ⟨taken, [], false⟩ _ :=
    .mk nothing (.based (.number (by decide)) nothing
      (.cons (.digits .minus space run) nothing (.cons (.alone .minus) nothing
        (.cons (.digits .plus nothing (by decide)) nothing .nil)))) .nil
  have refusedWritten : Chain.Written ⟨refused, [], false⟩ _ :=
    .mk nothing (.based (.number run) nothing
      (.cons (.alone .plus) nothing (.cons (.digits .minus nothing run) nothing .nil))) .nil
  have resolved := resolve_component takenWritten free (by decide) (by decide : b.lineCount < _)
    first rfl none
  have rejected := resolve_component refusedWritten free (by decide) (by decide : b.lineCount < _)
    first rfl none
  have nowhere (addr : Nat) : ¬ refused.Denotes b 0x7fffffffffffffff addr := fun h => above h.sums
  exact ⟨takenWritten, refusedWritten, free, first, rfl, denoted, (resolved.1 2).mpr denoted,
    nowhere, rejected.2 nowhere⟩

end LineEditor
