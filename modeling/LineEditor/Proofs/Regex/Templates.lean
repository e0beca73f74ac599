import LineEditor.Regex.Template

/-! What a template stands for. Each of its parts takes one character or more from its front, so the
fuel of the reader does not matter. -/
namespace LineEditor.Regex

variable {c : Char} {t template : Text} {m : Match} {part : TemplatePart}

theorem reference_ne_char (name : Text) (c : Char) : reference name ≠ .char c := by
  unfold reference
  split <;> simp

/-- The first part of a template, and what is behind it. A part that is a character stands there. -/
structure Begins (c : Char) (t : Text) (part : TemplatePart) (rest : Text) : Prop where
  suffix : rest <:+ t
  char : ∀ d, part = .char d → d ∈ c :: t
  read : ∀ fuel, readTemplate (fuel + 1) (c :: t) = part :: readTemplate fuel rest

theorem Begins.of_char {rest : Text} (suffix : rest <:+ t)
    (read : ∀ fuel, readTemplate (fuel + 1) (c :: t) = .char c :: readTemplate fuel rest) :
    Begins c t (.char c) rest where
  suffix := suffix
  char _ same := TemplatePart.char.inj same ▸ List.mem_cons_self
  read := read

theorem Begins.of_reference (name : Text) {rest : Text} (suffix : rest <:+ t)
    (read : ∀ fuel, readTemplate (fuel + 1) (c :: t) = reference name :: readTemplate fuel rest) :
    Begins c t (reference name) rest where
  suffix := suffix
  char d same := absurd same (reference_ne_char name d)
  read := read

theorem begins_plain (plain : c ≠ '$') (t : Text) : Begins c t (.char c) t :=
  .of_char List.suffix_rfl fun _ => by rw [readTemplate] <;> simp [plain]

theorem begins_brace (t : Text) : ∃ part rest, Begins '$' ('\x7b' :: t) part rest := by
  cases behind : t.dropWhile (· ≠ '\x7d') with
  | nil =>
      refine ⟨_, '\x7b' :: t, .of_char List.suffix_rfl fun _ => ?_⟩
      rw [readTemplate, behind]
  | cons close rest =>
      have suffix : close :: rest <:+ t := behind ▸ List.dropWhile_suffix _
      have suffix := ((List.suffix_cons close rest).trans suffix).trans (List.suffix_cons '\x7b' t)
      refine ⟨_, rest, .of_reference (t.takeWhile (· ≠ '\x7d')) suffix fun _ => ?_⟩
      rw [readTemplate, behind]

theorem begins_bare {d : Char} (dollar : d ≠ '$') (brace : d ≠ '\x7b') (t : Text) :
    ∃ part rest, Begins '$' (d :: t) part rest := by
  cases bare : ((d :: t).takeWhile isReferenceChar).isEmpty with
  | true =>
      refine ⟨_, d :: t, .of_char List.suffix_rfl fun _ => ?_⟩
      rw [readTemplate, if_pos bare] <;> simp [dollar, brace]
  | false =>
      have suffix : (d :: t).dropWhile isReferenceChar <:+ d :: t := List.dropWhile_suffix _
      refine ⟨_, _, .of_reference ((d :: t).takeWhile isReferenceChar) suffix fun _ => ?_⟩
      rw [readTemplate, if_neg (by simp [bare])] <;> simp [dollar, brace]

theorem exists_begins (c : Char) (t : Text) : ∃ part rest, Begins c t part rest := by
  by_cases sign : c = '$'
  · subst sign
    cases t with
    | nil => exact ⟨_, [], .of_char List.suffix_rfl fun _ => rfl⟩
    | cons d t =>
        by_cases dollar : d = '$'
        · subst dollar
          exact ⟨_, t, .of_char (List.suffix_cons _ t) fun _ => rfl⟩
        · by_cases brace : d = '\x7b'
          · subst brace
            exact begins_brace t
          · exact begins_bare dollar brace t
  · exact ⟨_, _, begins_plain sign t⟩

theorem readTemplate_eq {fuel : Nat} (enough : t.length ≤ fuel) :
    readTemplate fuel t = templateParts t := by
  have any (fuel fuel' : Nat) (t : Text) (enough : t.length ≤ fuel) (enough' : t.length ≤ fuel') :
      readTemplate fuel t = readTemplate fuel' t := by
    induction fuel generalizing fuel' t with
    | zero =>
        obtain rfl := List.length_eq_zero_iff.mp (Nat.le_zero.mp enough)
        cases fuel' <;> rfl
    | succ fuel ih =>
        cases t with
        | nil => cases fuel' <;> rfl
        | cons c t =>
            obtain ⟨fuel', rfl⟩ := Nat.exists_eq_add_of_le' (Nat.le_trans (Nat.succ_pos _) enough')
            obtain ⟨part, rest, begins⟩ := exists_begins c t
            have shorter := begins.suffix.length_le
            rw [List.length_cons] at enough enough'
            rw [begins.read, begins.read, ih fuel' rest (by omega) (by omega)]
  exact any fuel t.length t enough (Nat.le_refl _)

theorem char_mem_templateParts (member : .char c ∈ templateParts template) : c ∈ template := by
  have all (fuel : Nat) (template : Text) (member : .char c ∈ readTemplate fuel template) :
      c ∈ template := by
    induction fuel generalizing template with
    | zero => cases member
    | succ fuel ih =>
        cases template with
        | nil => cases member
        | cons d t =>
            obtain ⟨part, rest, begins⟩ := exists_begins d t
            rw [begins.read] at member
            rcases List.mem_cons.mp member with same | behind
            · exact begins.char c same.symm
            · exact List.mem_cons_of_mem _ (begins.suffix.subset (ih rest behind))
  exact all _ template member

theorem Span.of_subset (s : Span) (t : Text) : s.of t ⊆ t :=
  fun _ member => List.drop_subset _ _ (List.take_subset _ _ member)

theorem groupText_subset (t : Text) (m : Match) (n : Nat) : groupText t m n ⊆ t := by
  unfold groupText
  split
  · exact Span.of_subset _ t
  · exact List.nil_subset t

variable {r : Regex}

theorem mem_expandPart (member : c ∈ r.expandPart t m part) : c ∈ t ∨ part = .char c := by
  cases part with
  | char d => exact .inr (by rw [List.mem_singleton.mp member])
  | number n => exact .inl (groupText_subset t m n member)
  | name name =>
      simp only [expandPart] at member
      split at member
      · exact .inl (groupText_subset t m _ member)
      · cases member

theorem expand_subset (r : Regex) (t : Text) (m : Match) (template : Text) :
    r.expand t m (templateParts template) ⊆ t ++ template := by
  intro c member
  obtain ⟨part, typed, member⟩ := List.mem_flatMap.mp member
  rcases mem_expandPart member with inside | rfl
  · exact List.mem_append_left _ inside
  · exact List.mem_append_right _ (char_mem_templateParts typed)

/-- A first part that is read whatever is behind it. -/
theorem expand_append (part : TemplatePart) (more : Text)
    (read : ∀ fuel, readTemplate (fuel + 1) (c :: more ++ template) =
      part :: readTemplate fuel template) (r : Regex) (t : Text) (m : Match) :
    r.expand t m (templateParts (c :: more ++ template)) =
      r.expandPart t m part ++ r.expand t m (templateParts template) := by
  have length : (c :: more ++ template).length = more.length + template.length + 1 := by
    rw [List.cons_append, List.length_cons, List.length_append]
  rw [templateParts, length, read, readTemplate_eq (Nat.le_add_left _ _), expand, List.flatMap_cons]
  rfl

theorem expand_char (plain : c ≠ '$') (r : Regex) (t : Text) (m : Match) (rest : Text) :
    r.expand t m (templateParts (c :: rest)) = c :: r.expand t m (templateParts rest) :=
  expand_append (.char c) [] (begins_plain plain rest).read r t m

theorem expand_dollar (r : Regex) (t : Text) (m : Match) (rest : Text) :
    r.expand t m (templateParts ('$' :: '$' :: rest)) = '$' :: r.expand t m (templateParts rest) :=
  expand_append (.char '$') ['$'] (fun _ => rfl) r t m

/-- A digit in braces is a group, and no digit behind it belongs to it. -/
theorem expand_group {d : Char} (digit : d.isDigit = true) (r : Regex) (t : Text) (m : Match)
    (rest : Text) : r.expand t m (templateParts ('$' :: '\x7b' :: d :: '\x7d' :: rest)) =
      groupText t m (d.toNat - '0'.toNat) ++ r.expand t m (templateParts rest) := by
  have inside : d ≠ '\x7d' := by
    rintro rfl
    revert digit
    decide
  refine expand_append (.number (d.toNat - '0'.toNat)) ['\x7b', d, '\x7d'] (fun _ => ?_) r t m
  simp [readTemplate, inside, reference, digit, Text.number]

end LineEditor.Regex
