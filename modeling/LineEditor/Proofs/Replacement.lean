import LineEditor.Proofs.Escapes
import LineEditor.Proofs.Substitution
import LineEditor.Proofs.Regex.Lawful

/-! Which characters a substitution can put into a line: those that were in the line, and those that
were typed behind the verb. A group of a match is a part of the line. -/
namespace LineEditor

namespace Substitution

variable {c : Char} {s : Substitution} {text : Text}

theorem mem_apply {r : Regex} {line : Text} (h : c ∈ s.apply r line) :
    c ∈ line ∨ c ∈ s.template := by
  obtain ⟨every, -, rewritten⟩ :=
    Regex.engine_lawful.replace_rewrites r s.flags.global s.template line
  rcases rewritten.mem h with old | ⟨m, brought⟩
  · exact .inl old
  · exact List.mem_append.mp (Regex.engine_lawful.expand_subset r line m s.template brought)

theorem mem_extendFirst {u : Text} {fields : List Text} {field : Text}
    (member : field ∈ extendFirst u fields) (h : c ∈ field) :
    c ∈ u ∨ ∃ f ∈ fields, c ∈ f := by
  cases fields with
  | nil =>
      rw [List.mem_singleton.mp member] at h
      exact .inl h
  | cons first more =>
      rcases List.mem_cons.mp member with rfl | member
      · exact (List.mem_append.mp h).imp_right fun h => ⟨first, List.mem_cons_self, h⟩
      · exact .inr ⟨field, List.mem_cons_of_mem _ member, h⟩

theorem mem_splitFields {delimiter : Char} {field : Text}
    (member : field ∈ splitFields delimiter text) (h : c ∈ field) : c ∈ text := by
  induction text using Text.delimited_induction delimiter generalizing field with
  | nil =>
      rw [List.mem_singleton.mp member] at h
      exact h
  | ended t ih =>
      rw [splitFields_delimiter] at member
      rcases List.mem_cons.mp member with rfl | member
      · cases h
      · exact List.mem_cons_of_mem _ (ih member h)
  | lone other =>
      rw [splitFields_lone other] at member
      rw [List.mem_singleton.mp member] at h
      exact h
  | pair e t other ih =>
      rw [splitFields_pair other] at member
      rcases mem_extendFirst member h with h | ⟨f, member, h⟩
      · have typed : c = '\\' ∨ c = e := by
          split at h
          · exact .inr (List.mem_singleton.mp h)
          · simpa using h
        rcases typed with rfl | rfl <;> simp
      · exact List.mem_cons_of_mem _ (List.mem_cons_of_mem _ (ih member h))
  | char d t notDelimiter notEscape ih =>
      rw [splitFields_char notDelimiter notEscape] at member
      rcases mem_extendFirst member h with h | ⟨f, member, h⟩
      · rw [List.mem_singleton.mp h]
        exact List.mem_cons_self
      · exact List.mem_cons_of_mem _ (ih member h)

theorem mem_literal {d : Char} (h : c ∈ literal d) : c = d := by
  unfold literal at h
  split at h
  · next dollar => simpa [dollar] using h
  · exact List.mem_singleton.mp h

theorem mem_groupReference {d : Char} (h : c ∈ groupReference d) :
    c = d ∨ c ∈ groupReference '0' := by
  simp only [groupReference, List.mem_cons, List.not_mem_nil, or_false] at h ⊢
  rcases h with h | h | h | h <;> simp [h]

theorem mem_toTemplate {replacement : Text} (h : c ∈ toTemplate replacement) :
    c ∈ replacement ∨ c ∈ groupReference '0' := by
  induction replacement using Text.pairs_induction with
  | nil => exact .inl h
  | lone => exact .inl h
  | pair d t ih =>
      rw [toTemplate_pair] at h
      rcases List.mem_append.mp h with h | h
      · have meant : c = d ∨ c ∈ groupReference '0' := by
          split at h
          · exact mem_groupReference h
          · exact .inl (mem_literal h)
        exact meant.imp_left fun same => by simp [same]
      · exact (ih h).imp_left fun h => by simp [h]
  | char d t plain ih =>
      rw [toTemplate_char plain] at h
      rcases List.mem_append.mp h with h | h
      · split at h
        · exact .inr h
        · exact .inl (by simp [mem_literal h])
      · exact (ih h).imp_left (List.mem_cons_of_mem _)

theorem mem_template_of_make {pattern replacement flags : Text} {print : Bool}
    (made : ofFields.make pattern replacement flags print = .ok s) (h : c ∈ s.template) :
    c ∈ replacement ∨ c ∈ groupReference '0' := by
  obtain ⟨flags, -, same⟩ := of_bind_ok made
  cases same
  exact mem_toTemplate h

theorem mem_template_of_fields {fields : List Text} (made : ofFields fields = .ok s)
    (h : c ∈ s.template) : (∃ field ∈ fields, c ∈ field) ∨ c ∈ groupReference '0' := by
  unfold ofFields at made
  split at made
  · exact (mem_template_of_make made h).imp_left fun h => by cases h
  · exact (mem_template_of_make made h).imp_left fun h => ⟨_, by simp, h⟩
  · exact (mem_template_of_make made h).imp_left fun h => ⟨_, by simp, h⟩
  · cases made

theorem mem_template (parsed : parse text = .ok s) (h : c ∈ s.template) :
    c ∈ text ∨ c ∈ groupReference '0' := by
  unfold parse at parsed
  split at parsed
  · dsimp only at parsed
    split at parsed
    · cases parsed
    · refine (mem_template_of_fields parsed h).imp_left ?_
      rintro ⟨field, member, h⟩
      exact List.mem_cons_of_mem _ (mem_splitFields member h)
  · cases parsed

theorem newline_notMem_apply {r : Regex} {line : Text} (parsed : parse text = .ok s)
    (typed : '\n' ∉ text) (h : '\n' ∉ line) : '\n' ∉ s.apply r line := by
  intro member
  rcases mem_apply member with old | new
  · exact h old
  · rcases mem_template parsed new with new | sign
    · exact typed new
    · exact absurd sign (by decide)

end Substitution

end LineEditor
