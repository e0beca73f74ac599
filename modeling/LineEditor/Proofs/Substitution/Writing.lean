import LineEditor.Proofs.Escapes
import LineEditor.Proofs.Address.Notation
import LineEditor.Proofs.Substitution.Delimiter

/-! Substitutions as they are typed. Any pattern, replacement and flags can stand between any
delimiters, if a backslash is put in front of the delimiters in them; reading the command gives them
back. -/
namespace LineEditor

theorem SubstitutionFlags.read_known (flags : SubstitutionFlags) {t : Text}
    (known : ∀ c ∈ t, c ∈ ['g', 'i', 'p']) :
    flags.read t = .ok ⟨flags.global || decide ('g' ∈ t), flags.ignoreCase || decide ('i' ∈ t),
      flags.print || decide ('p' ∈ t)⟩ := by
  induction t generalizing flags with
  | nil => simp [read]
  | cons c t ih =>
      obtain ⟨first, rest⟩ := List.forall_mem_cons.mp known
      simp only [List.mem_cons, List.not_mem_nil, or_false] at first
      rcases first with rfl | rfl | rfl
      · simp [read, add?, ih _ rest]
      · simp [read, add?, ih _ rest]
      · simp [read, add?, ih _ rest]

namespace Substitution

variable {delimiter : Char} {source written : Text}

/-- A text that can be a field. Read from the left as pairs of a backslash and a character and as
single characters, it has no pair with the delimiter and no backslash alone at its end. -/
def WellFormed (delimiter : Char) : Text → Prop
  | [] => True
  | ['\\'] => False
  | '\\' :: c :: t => c ≠ delimiter ∧ WellFormed delimiter t
  | _ :: t => WellFormed delimiter t

def escapeDelimiters (delimiter : Char) : Text → Text
  | [] => []
  | ['\\'] => ['\\']
  | '\\' :: c :: t => '\\' :: c :: escapeDelimiters delimiter t
  | c :: t => (if c = delimiter then ['\\', c] else [c]) ++ escapeDelimiters delimiter t

theorem wellFormed_char {c : Char} {t : Text} (single : c ≠ '\\') :
    WellFormed delimiter (c :: t) ↔ WellFormed delimiter t := by
  rw [WellFormed] <;> simp [single]

theorem escapeDelimiters_char {c : Char} {t : Text} (single : c ≠ '\\') :
    escapeDelimiters delimiter (c :: t) =
      (if c = delimiter then ['\\', c] else [c]) ++ escapeDelimiters delimiter t := by
  rw [escapeDelimiters] <;> simp [single]

theorem escaped_escapeDelimiters {t : Text} (good : WellFormed delimiter t) :
    Escaped delimiter t (escapeDelimiters delimiter t) := by
  induction t using Text.pairs_induction with
  | nil => exact .nil
  | lone => exact good.elim
  | pair c t ih => exact .escape good.1 (ih good.2)
  | char c t single ih =>
      have rest : WellFormed delimiter t := (wellFormed_char single).mp good
      rw [escapeDelimiters_char single]
      split
      · next same =>
        subst same
        exact .delimiter (ih rest)
      · next other => exact .plain other single (ih rest)

theorem splitFields_written (h : Escaped delimiter source written) (notEscape : delimiter ≠ '\\')
    (t : Text) :
    splitFields delimiter (written ++ t) = extendFirst source (splitFields delimiter t) := by
  induction h with
  | nil => exact (extendFirst_nil (splitFields_ne_nil delimiter t)).symm
  | plain notDelimiter single _ ih =>
      rw [List.cons_append, splitFields_char notDelimiter single, ih, extendFirst_extendFirst]
      rfl
  | delimiter _ ih =>
      rw [List.cons_append, List.cons_append, splitFields_escaped notEscape, ih,
        extendFirst_extendFirst]
      rfl
  | escape notDelimiter _ ih =>
      rw [List.cons_append, List.cons_append, splitFields_pair notEscape.symm, if_neg notDelimiter, ih,
        extendFirst_extendFirst]
      rfl

theorem splitFields_first (h : Escaped delimiter source written) (notEscape : delimiter ≠ '\\')
    (t : Text) :
    splitFields delimiter (written ++ delimiter :: t) = source :: splitFields delimiter t := by
  rw [splitFields_written h notEscape, splitFields_delimiter, extendFirst, List.append_nil]

theorem splitFields_only (h : Escaped delimiter source written) (notEscape : delimiter ≠ '\\') :
    splitFields delimiter written = [source] := by
  have only := splitFields_written h notEscape []
  rwa [List.append_nil, splitFields, extendFirst, List.append_nil] at only

theorem make_flagged (pattern replacement : Text) {flags : Text} (print : Bool)
    (known : ∀ c ∈ flags, c ∈ ['g', 'i', 'p']) :
    ofFields.make pattern replacement flags print =
      .ok ⟨if pattern = [] then none else some pattern, toTemplate replacement,
        ⟨decide ('g' ∈ flags), decide ('i' ∈ flags), decide ('p' ∈ flags)⟩,
        decide ('p' ∈ flags) || print⟩ := by
  rw [ofFields.make, SubstitutionFlags.read_known _ known]
  cases pattern with
  | nil => rfl
  | cons => rfl

theorem ofFields_many (first pattern replacement flags : Text) {more : List Text}
    (given : more ≠ []) :
    ofFields (first :: pattern :: replacement :: flags :: more) = .error .invalidSyntax := by
  cases more with
  | nil => exact absurd rfl given
  | cons => rfl

theorem wellFormed_flags {flags : Text} (known : ∀ c ∈ flags, c ∈ ['g', 'i', 'p']) :
    WellFormed delimiter flags := by
  induction flags with
  | nil => trivial
  | cons c flags ih =>
      obtain ⟨first, rest⟩ := List.forall_mem_cons.mp known
      simp only [List.mem_cons, List.not_mem_nil, or_false] at first
      rcases first with rfl | rfl | rfl <;> exact ih rest

/-- A command whose fields are written with escaped delimiters is read as these fields. Without
flags it prints if the replacement has no delimiter behind it, and a fifth field is refused. -/
theorem parse_written {pattern replacement flags : Text}
    (space : Text.isWhitespace delimiter = false) (notEscape : delimiter ≠ '\\')
    (goodPattern : WellFormed delimiter pattern)
    (goodReplacement : WellFormed delimiter replacement)
    (known : ∀ c ∈ flags, c ∈ ['g', 'i', 'p']) :
    let own := if pattern = [] then none else some pattern
    let asked : SubstitutionFlags :=
      ⟨decide ('g' ∈ flags), decide ('i' ∈ flags), decide ('p' ∈ flags)⟩
    let command := 's' :: delimiter :: escapeDelimiters delimiter pattern
    let replacing := command ++ delimiter :: escapeDelimiters delimiter replacement
    let flagged := replacing ++ delimiter :: escapeDelimiters delimiter flags
    parse flagged = .ok ⟨own, toTemplate replacement, asked, asked.print⟩ ∧
      parse replacing = .ok ⟨own, toTemplate replacement, .none, true⟩ ∧
      parse command = .ok ⟨own, [], .none, false⟩ ∧
      ∀ more, parse (flagged ++ delimiter :: more) = .error .invalidSyntax := by
  intro own asked command replacing flagged
  have first := escaped_escapeDelimiters goodPattern
  have second := escaped_escapeDelimiters goodReplacement
  have third := escaped_escapeDelimiters (@wellFormed_flags delimiter flags known)
  have unflagged : ∀ c ∈ ([] : Text), c ∈ ['g', 'i', 'p'] := List.forall_mem_nil _
  refine ⟨?_, ?_, ?_, fun more => ?_⟩
  · simp only [flagged, replacing, command, List.cons_append, List.append_assoc]
    rw [parse_of_fields space, splitFields_first first notEscape, splitFields_first second notEscape,
      splitFields_only third notEscape, ofFields, make_flagged _ _ _ known, Bool.or_false]
  · simp only [replacing, command, List.cons_append]
    rw [parse_of_fields space, splitFields_first first notEscape,
      splitFields_only second notEscape, ofFields, make_flagged _ _ _ unflagged]
    rfl
  · rw [parse_of_fields space, splitFields_only first notEscape, ofFields,
      make_flagged _ _ _ unflagged]
    rfl
  · simp only [flagged, replacing, command, List.cons_append, List.append_assoc]
    rw [parse_of_fields space, splitFields_first first notEscape, splitFields_first second notEscape,
      splitFields_first third notEscape]
    exact ofFields_many _ _ _ _ (splitFields_ne_nil delimiter more)

theorem parse_written_letter :
    WellFormed 'g' ['\\', '\\', 'g'] ∧ WellFormed 'g' ['\\', '1'] ∧
      parse ['s', 'g', '\\', '\\', '\\', 'g', 'g', '\\', '1', 'g', 'p', '\\', 'g'] =
        .ok ⟨some ['\\', '\\', 'g'], toTemplate ['\\', '1'], ⟨true, false, true⟩, true⟩ := by
  have pattern : WellFormed 'g' ['\\', '\\', 'g'] := ⟨by decide, trivial⟩
  have replacement : WellFormed 'g' ['\\', '1'] := ⟨by decide, trivial⟩
  have ⟨flagged, _⟩ := @parse_written 'g' ['\\', '\\', 'g'] ['\\', '1'] ['p', 'g'] (by decide)
    (by decide) pattern replacement (by simp)
  exact ⟨pattern, replacement, flagged⟩

end Substitution

end LineEditor
