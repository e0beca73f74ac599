import LineEditor.Proofs.Substitution.Expansion

/-! A delimiter that has a backslash in front is part of its field, where it loses the backslash. So
the field is read as if the delimiter had been typed bare: in a replacement it is itself unless it
is an ampersand. -/
namespace LineEditor.Substitution

open Regex (groupText engine_lawful)

variable {delimiter : Char} {u v p t line : Text} {fields : List Text}

def Plain (delimiter : Char) (t : Text) : Prop := ∀ c ∈ t, c ≠ delimiter ∧ c ≠ '\\'

instance (delimiter : Char) (t : Text) : Decidable (Plain delimiter t) :=
  List.decidableBAll _ t

theorem extendFirst_extendFirst (u v : Text) (fields : List Text) :
    extendFirst u (extendFirst v fields) = extendFirst (u ++ v) fields := by
  cases fields <;> simp [extendFirst]

theorem extendFirst_nil (ne : fields ≠ []) : extendFirst [] fields = fields := by
  cases fields with
  | nil => exact absurd rfl ne
  | cons => rfl

theorem splitFields_plain (plain : Plain delimiter u) (t : Text) :
    splitFields delimiter (u ++ t) = extendFirst u (splitFields delimiter t) := by
  induction u with
  | nil => exact (extendFirst_nil (splitFields_ne_nil delimiter t)).symm
  | cons c u ih =>
      obtain ⟨first, rest⟩ := List.forall_mem_cons.mp plain
      rw [List.cons_append, splitFields_char first.1 first.2, ih rest, extendFirst_extendFirst]
      rfl

theorem splitFields_escaped (other : delimiter ≠ '\\') (t : Text) :
    splitFields delimiter ('\\' :: delimiter :: t) =
      extendFirst [delimiter] (splitFields delimiter t) := by
  rw [splitFields_pair other.symm, if_pos rfl]

theorem splitFields_escaped_field (other : delimiter ≠ '\\') (before : Plain delimiter u)
    (behind : Plain delimiter v) (t : Text) :
    splitFields delimiter (u ++ '\\' :: delimiter :: (v ++ delimiter :: t)) =
      (u ++ delimiter :: v) :: splitFields delimiter t := by
  rw [splitFields_plain before, splitFields_escaped other, splitFields_plain behind,
    splitFields_delimiter, extendFirst_extendFirst, extendFirst_extendFirst]
  simp [extendFirst]

theorem splitFields_field (plain : Plain delimiter u) (t : Text) :
    splitFields delimiter (u ++ delimiter :: t) = u :: splitFields delimiter t := by
  rw [splitFields_plain plain, splitFields_delimiter]
  simp [extendFirst]

theorem parse_of_fields (space : Text.isWhitespace delimiter = false) (t : Text) :
    parse ('s' :: delimiter :: t) = ofFields ([] :: splitFields delimiter t) := by
  simp [parse, space, splitFields_delimiter]

theorem make_unflagged {pattern : Text} (given : pattern ≠ []) (replacement : Text) (print : Bool) :
    ofFields.make pattern replacement [] print =
      .ok ⟨some pattern, toTemplate replacement, .none, print⟩ := by
  cases pattern with
  | nil => exact absurd rfl given
  | cons => rfl

theorem expansion_plain (group : Nat → Text) (plain : ∀ c ∈ u, c ≠ '&' ∧ c ≠ '\\') (t : Text) :
    expansion group (u ++ t) = u ++ expansion group t := by
  induction u with
  | nil => rfl
  | cons c u ih =>
      obtain ⟨first, rest⟩ := List.forall_mem_cons.mp plain
      rw [List.cons_append, expansion, if_neg first.1, ih rest]
      · rfl
      · simp [first.2]
      · simp [first.2]

def Letters (delimiter : Char) (t : Text) : Prop := ∀ c ∈ t, c.isAlpha = true ∧ c ≠ delimiter

instance (delimiter : Char) (t : Text) : Decidable (Letters delimiter t) :=
  List.decidableBAll _ t

theorem Letters.plain (word : Letters delimiter u) : Plain delimiter u := by
  refine fun c member => ⟨(word c member).2, ?_⟩
  rintro rfl
  exact absurd (word _ member).1 (by decide)

theorem Letters.unmarked (word : Letters delimiter u) : ∀ c ∈ u, c ≠ '&' ∧ c ≠ '\\' := by
  refine fun c member => ⟨?_, (word.plain c member).2⟩
  rintro rfl
  exact absurd (word _ member).1 (by decide)

theorem expansion_delimited {group : Nat → Text} (before : Letters delimiter u)
    (behind : Letters delimiter v) (other : delimiter ≠ '\\') :
    expansion group (u ++ delimiter :: v) =
      u ++ (if delimiter = '&' then group 0 else [delimiter]) ++ v := by
  have rest : expansion group v = v := by
    have := expansion_plain group behind.unmarked []
    rwa [List.append_nil, expansion, List.append_nil] at this
  rw [expansion_plain group before.unmarked, expansion, rest, List.append_assoc]
  · simp [other]
  · simp [other]

theorem apply_first {s : Substitution} {r : Regex} {m : Regex.Match} {replacement : Text}
    (template : s.template = toTemplate replacement) (once : s.flags.global = false)
    (found : r.find line = some m) :
    ∃ gap whole rest, line = gap ++ whole ++ rest ∧
      m.span = ⟨gap.length, gap.length + whole.length⟩ ∧ groupText line m 0 = whole ∧
      s.apply r line = gap ++ expansion (groupText line m) replacement ++ rest := by
  obtain ⟨gap, whole, rest, text, span, replaced⟩ :=
    engine_lawful.replace_first found (toTemplate replacement)
  refine ⟨gap, whole, rest, text, span, ?_, ?_⟩
  · rw [text]
    exact Regex.Span.of_append (congrArg Regex.Span.start span) (by rw [span])
  · rw [apply_eq_replace, once, template, replaced, expand_toTemplate engine_lawful]

/-- In a replacement an escaped delimiter is itself, unless it is an ampersand. That one has lost its
backslash when the replacement is read, and is the match. -/
theorem apply_escaped_delimiter {r : Regex} {m : Regex.Match}
    (space : Text.isWhitespace delimiter = false) (other : delimiter ≠ '\\')
    (before : Letters delimiter u) (behind : Letters delimiter v) (given : p ≠ [])
    (plain : Plain delimiter p) (compiled : Regex.compile false p = .ok r)
    (found : r.find line = some m) :
    ∃ s gap whole rest,
      parse ('s' :: delimiter :: (p ++ delimiter ::
        (u ++ '\\' :: delimiter :: (v ++ [delimiter])))) = .ok s ∧
      s.compile = .ok (some r) ∧
      line = gap ++ whole ++ rest ∧ m.span = ⟨gap.length, gap.length + whole.length⟩ ∧
      s.apply r line =
        gap ++ (u ++ (if delimiter = '&' then whole else [delimiter]) ++ v) ++ rest := by
  let s : Substitution := ⟨some p, toTemplate (u ++ delimiter :: v), .none, false⟩
  have parsed : parse ('s' :: delimiter :: (p ++ delimiter ::
      (u ++ '\\' :: delimiter :: (v ++ [delimiter])))) = .ok s := by
    rw [parse_of_fields space, splitFields_field plain,
      splitFields_escaped_field other before.plain behind.plain, splitFields]
    exact make_unflagged given _ false
  have own : s.compile = .ok (some r) := compile_own rfl compiled
  obtain ⟨gap, whole, rest, text, span, matched, applied⟩ :=
    apply_first (s := s) rfl rfl found
  refine ⟨s, gap, whole, rest, parsed, own, text, span, ?_⟩
  rw [applied, expansion_delimited before behind other, matched]

theorem apply_escaped_delimiter_percent :
    ∃ s gap whole rest, parse ['s', '%', 'a', '%', 'x', '\\', '%', 'y', '%'] = .ok s ∧
      ['b', 'a'] = gap ++ whole ++ rest ∧
      s.apply ⟨['a'], false, .ofExpr (.set (.single 'a')) 0, []⟩ ['b', 'a'] =
        gap ++ ['x', '%', 'y'] ++ rest := by
  have matched :
      (Regex.find ⟨['a'], false, .ofExpr (.set (.single 'a')) 0, []⟩ ['b', 'a']).isSome = true := by
    decide +kernel
  obtain ⟨m, found⟩ := Option.isSome_iff_exists.mp matched
  obtain ⟨s, gap, whole, rest, parsed, -, text, -, applied⟩ :=
    @apply_escaped_delimiter '%' ['x'] ['y'] ['a'] ['b', 'a'] _ m
      (by decide) (by decide) (by decide) (by decide) (by decide) (by decide) rfl found
  exact ⟨s, gap, whole, rest, parsed, text, applied⟩

/-- The ampersand between the words is the match, although it was escaped. -/
theorem apply_escaped_ampersand :
    ∃ s r, parse ['s', '&', 'a', '&', 'x', '\\', '&', 'y', '&'] = .ok s ∧
      s.compile = .ok (some r) ∧ s.apply r ['a'] = ['x', 'a', 'y'] := by
  refine ⟨⟨some ['a'], toTemplate ['x', '&', 'y'], .none, false⟩,
    ⟨['a'], false, .ofExpr (.set (.single 'a')) 0, []⟩, rfl, rfl, by decide +kernel⟩

end LineEditor.Substitution
