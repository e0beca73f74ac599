import LineEditor.Substitution.Basic
import LineEditor.Proofs.Failure

/-! A substitution that is not understood, or has no good pattern, is refused. Whether it prints is
said by its flags and by the number of its fields. -/
namespace LineEditor

theorem SubstitutionFlags.read_meets (flags : SubstitutionFlags) (t : Text) :
    Meets (flags.read t) (fun _ => True) EditorError.IsRefusal := by
  induction t generalizing flags with
  | nil => exact .ok trivial
  | cons c t ih =>
      unfold read
      split
      · exact ih _
      · exact .fail (by decide)

theorem SubstitutionFlags.print_of_read {flags read : SubstitutionFlags} {t : Text}
    (h : flags.read t = .ok read) : read.print = true ↔ flags.print = true ∨ 'p' ∈ t := by
  induction t generalizing flags with
  | nil =>
      cases h
      simp
  | cons c t ih =>
      unfold SubstitutionFlags.read at h
      split at h
      · next more added =>
        rw [ih h]
        unfold add? at added
        split at added <;> cases added <;> simp
      · cases h

namespace Substitution

section

variable {s : Substitution} {source : Text} (given : s.pattern = some source)
include given

theorem compile_own {r : Regex} (compiled : Regex.compile s.flags.ignoreCase source = .ok r) :
    s.compile = .ok (some r) := by
  unfold compile
  simp only [given, compiled]

theorem compile_refused {refusal : Regex.Refusal}
    (refused : Regex.compile s.flags.ignoreCase source = .error refusal) :
    s.compile = .error .invalidPattern := by
  unfold compile
  simp only [given, refused]

end

theorem ofFields_meets (fields : List Text) :
    Meets (ofFields fields) (fun _ => True) EditorError.IsRefusal := by
  have make (pattern replacement flags : Text) (print : Bool) :
      Meets (ofFields.make pattern replacement flags print) (fun _ => True)
        EditorError.IsRefusal :=
    (SubstitutionFlags.read_meets _ _).bind fun _ _ => .ok trivial
  unfold ofFields
  split
  · exact make _ _ _ _
  · exact make _ _ _ _
  · exact make _ _ _ _
  · exact .fail (by decide)

theorem parse_meets (t : Text) : Meets (parse t) (fun _ => True) EditorError.IsRefusal := by
  unfold parse
  split
  · dsimp only
    split
    · exact .fail (by decide)
    · exact ofFields_meets _
  · exact .fail (by decide)

def segments : Text → List Text
  | [] => []
  | _ :: body => splitFields (body.head?.getD '/') body

/-- A command prints if its flags say so, or if the replacement has no delimiter behind it. -/
def AsksToPrint (t : Text) : Prop :=
  (segments t).length = 3 ∨ ∃ flags, (segments t)[3]? = some flags ∧ 'p' ∈ flags

theorem ofFields_segments {t : Text} {s : Substitution} (parsed : parse t = .ok s) :
    ofFields (segments t) = .ok s := by
  unfold parse at parsed
  split at parsed
  · dsimp only at parsed
    split at parsed
    · cases parsed
    · exact parsed
  · cases parsed

theorem autoPrint_iff {t : Text} {s : Substitution} (parsed : parse t = .ok s) :
    s.autoPrint = true ↔ AsksToPrint t := by
  have made {pattern replacement flags : Text} {print : Bool}
      (h : ofFields.make pattern replacement flags print = .ok s) :
      s.autoPrint = true ↔ 'p' ∈ flags ∨ print = true := by
    obtain ⟨read, done, h⟩ := of_bind_ok h
    cases h
    simp [SubstitutionFlags.print_of_read done, SubstitutionFlags.none]
  have fields := ofFields_segments parsed
  unfold ofFields at fields
  unfold AsksToPrint
  split at fields
  · next split =>
    rw [made fields, split]
    simp
  · next split =>
    rw [made fields, split]
    simp
  · next split =>
    rw [made fields, split]
    simp
  · cases fields

theorem compile_meets (s : Substitution) :
    Meets s.compile (fun _ => True) EditorError.IsRefusal := by
  unfold compile
  split
  · exact .ok trivial
  · split
    · exact .ok trivial
    · exact .fail (by decide)

end Substitution

end LineEditor
