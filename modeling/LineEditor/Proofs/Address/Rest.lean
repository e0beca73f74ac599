import LineEditor.Proofs.Address.Range
import LineEditor.Proofs.Address.Syntax

/-! What a line resolves to, whatever was typed: the addresses take the front of it, the command that
stands behind them is its end, and the range lies in the document. -/
namespace LineEditor

theorem Addresses.read_suffix (t : Text) : (Addresses.read t).2 <:+ t := by
  obtain ⟨taken, -, split, -⟩ := Addresses.read_takes t
  exact ⟨taken, split.symm⟩

theorem resolve_rest {text : Text} {b : Buffer} {current : Nat} {last : Option Regex}
    {r : Resolution} (h : resolve text b current last = .ok r) :
    r.rest = orPrint (Addresses.read text).2 := by
  obtain ⟨p, -, h⟩ := of_bind_ok h
  obtain ⟨range, -, h⟩ := of_bind_ok h
  dsimp only at h
  split at h
  · cases h
    rfl
  · cases h

theorem resolve_rest_subset {text : Text} {b : Buffer} {current : Nat} {last : Option Regex}
    {r : Resolution} (h : resolve text b current last = .ok r) {c : Char} (member : c ∈ r.rest) :
    c ∈ text ∨ c = 'p' := by
  rw [resolve_rest h] at member
  unfold orPrint at member
  split at member
  · exact .inr (List.mem_singleton.mp member)
  · exact .inl ((Addresses.read_suffix text).subset member)

theorem Addresses.read_verb {t : Text} (free : Text.Free isAddressChar t) :
    Addresses.read t = (.chain ⟨⟨none, []⟩, [], false⟩, t) := by
  have blank : Text.Blank [] := by decide
  exact Addresses.read_written (.mk blank (.offsets .nil) .nil) free

theorem resolve_verb {b : Buffer} {current : Nat} {last : Option Regex} {t : Text}
    (free : Text.Free isAddressChar t) (nonempty : t ≠ []) :
    resolve t b current last =
      if current ≤ b.lineCount then .ok ⟨current, current, t, current, none⟩
      else .error .invalidAddress :=
  resolve_lone_nothing (Addresses.read_verb free) rfl nonempty

/-- The range of any text that resolves lies in the document, and so does the current line. All that
was typed in front of the command is addresses, and a print is added only where nothing else is
there. -/
theorem resolve_safe {text : Text} {b : Buffer} {current : Nat} {last : Option Regex}
    {r : Resolution} (valid : b.HasLine current) (resolved : resolve text b current last = .ok r) :
    (r.start ≤ r.stop ∧ r.stop ≤ b.lineCount) ∧ (0 < b.lineCount → 1 ≤ r.start) ∧
      b.HasLine r.current ∧ r.rest ≠ [] ∧
      (Takes IsAddresses text r.rest ∨ r.rest = ['p'] ∧ Takes IsAddresses text []) := by
  have inside : r.Inside b :=
    (resolve_meets text b current last).value r resolved ((b.hasLine_iff current).mp valid)
  have first := (b.holds_iff r.start).mp inside.start
  have stop := (b.holds_iff r.stop).mp inside.stop
  have taken := Addresses.read_takes text
  have rest : r.rest = orPrint (Addresses.read text).2 := resolve_rest resolved
  refine ⟨⟨inside.ordered, stop.1⟩, fun lines => ?_, (b.hasLine_iff _).mpr inside.current, ?_⟩
  · omega
  · rw [rest]
    cases left : (Addresses.read text).2 with
    | nil =>
        rw [left] at taken
        exact ⟨List.cons_ne_nil _ _, .inr ⟨rfl, taken⟩⟩
    | cons c t =>
        rw [left] at taken
        exact ⟨List.cons_ne_nil _ _, .inl taken⟩

theorem resolve_safe_separators :
    let b : Buffer := ⟨[['a'], ['b'], ['c']]⟩
    let r : Resolution := ⟨3, 3, ['p'], 3, none⟩
    b.HasLine 3 ∧ resolve ['2', ',', ' ', ';'] b 3 none = .ok r ∧ b.HasLine r.current ∧
      (Takes IsAddresses ['2', ',', ' ', ';'] r.rest ∨
        r.rest = ['p'] ∧ Takes IsAddresses ['2', ',', ' ', ';'] []) := by
  intro b r
  have valid : b.HasLine 3 := by decide
  have resolved : resolve ['2', ',', ' ', ';'] b 3 none = .ok r := rfl
  obtain ⟨-, -, here, -, taken⟩ := resolve_safe valid resolved
  exact ⟨valid, resolved, here, taken⟩

end LineEditor
