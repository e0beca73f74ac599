import LineEditor.Proofs.Escapes
import LineEditor.Proofs.Substitution
import LineEditor.Proofs.Regex.Lawful

/-! What a replacement means for a match, read as it was typed: the template that it becomes means
the same, so no character of a replacement is taken for one of a template. -/
namespace LineEditor

namespace Substitution

open Regex (Engine groupText Rewritten engine engine_lawful)

/-- The text that a replacement stands for, from left to right. An ampersand is the whole match and
a backslash with a digit from 1 to 9 a group; a backslash takes any other character its meaning and
is itself at the end, and every other character is itself. -/
def expansion (group : Nat → Text) : Text → Text
  | [] => []
  | ['\\'] => ['\\']
  | '\\' :: c :: t =>
      (if isGroupDigit c then group (c.toNat - '0'.toNat) else [c]) ++ expansion group t
  | c :: t => (if c = '&' then group 0 else [c]) ++ expansion group t

theorem expansion_char (group : Nat → Text) {c : Char} (plain : c ≠ '\\') (t : Text) :
    expansion group (c :: t) = (if c = '&' then group 0 else [c]) ++ expansion group t := by
  rw [expansion] <;> simp [plain]

section

variable {R : Type} {E : Engine R} (lawful : E.Lawful) (r : R) (line : Text) (m : Regex.Match)
include lawful

theorem expand_literal (c : Char) (rest : Text) :
    E.expand r line m (literal c ++ rest) = c :: E.expand r line m rest := by
  unfold literal
  split
  · next dollar =>
    subst dollar
    exact lawful.expand_dollar r line m rest
  · next plain => exact lawful.expand_char plain r line m rest

theorem expand_toTemplate (replacement : Text) :
    E.expand r line m (toTemplate replacement) = expansion (groupText line m) replacement := by
  induction replacement using Text.pairs_induction with
  | nil => exact lawful.expand_nil r line m
  | lone =>
      have last := expand_literal lawful r line m '\\' []
      rw [lawful.expand_nil] at last
      exact last
  | pair c t ih =>
      rw [toTemplate_pair, expansion, ← ih]
      split
      · next group =>
        have digit : c.isDigit = true := by
          rw [isGroupDigit, Bool.and_eq_true] at group
          exact group.1
        exact lawful.expand_group digit r line m _
      · exact expand_literal lawful r line m c _
  | char c t plain ih =>
      rw [toTemplate_char plain, expansion_char _ plain, ← ih]
      split
      · exact lawful.expand_group (by decide) r line m _
      · exact expand_literal lawful r line m c _

end

def replacementField (t : Text) : Text := (segments t)[2]?.getD []

theorem template_of_parse {t : Text} {s : Substitution} (parsed : parse t = .ok s) :
    s.template = toTemplate (replacementField t) := by
  have made {pattern replacement flags : Text} {print : Bool}
      (h : ofFields.make pattern replacement flags print = .ok s) :
      s.template = toTemplate replacement := by
    obtain ⟨read, -, h⟩ := of_bind_ok h
    cases h
    rfl
  have fields := ofFields_segments parsed
  unfold ofFields at fields
  unfold replacementField
  split at fields
  · next split => rw [made fields, split, List.getElem?_cons_succ, List.getElem?_cons_succ,
      List.getElem?_nil, Option.getD_none]
  · next split => rw [made fields, split, List.getElem?_cons_succ, List.getElem?_cons_succ,
      List.getElem?_cons_zero, Option.getD_some]
  · next split => rw [made fields, split, List.getElem?_cons_succ, List.getElem?_cons_succ,
      List.getElem?_cons_zero, Option.getD_some]
  · cases fields

theorem apply_eq_replace (s : Substitution) (r : Regex) (line : Text) :
    s.apply r line = (engine.replace r s.flags.global s.template line).getD line := rfl

theorem apply_rewritten {s : Substitution} {replacement : Text}
    (template : s.template = toTemplate replacement) (r : Regex) (line : Text) :
    ∃ ms, r.Selects s.flags.global line ms ∧
      Rewritten (fun m => expansion (groupText line m) replacement) 0 line ms (s.apply r line) := by
  obtain ⟨every, iterates, rewritten⟩ :=
    engine_lawful.replace_rewrites r s.flags.global s.template line
  simp only [template, expand_toTemplate engine_lawful] at rewritten
  rw [← template] at rewritten
  exact ⟨_, ⟨every, iterates, rfl⟩, rewritten⟩

theorem apply_ampersand {s : Substitution} (template : s.template = toTemplate ['&']) (r : Regex)
    (line : Text) : s.apply r line = line := by
  obtain ⟨ms, -, rewritten⟩ := apply_rewritten template r line
  have whole (m : Regex.Match) : expansion (groupText line m) ['&'] = m.span.of line := by
    simp [expansion, groupText, Regex.Match.group]
  simp only [whole] at rewritten
  exact Rewritten.unchanged [] rewritten rfl

/-- A substitution with the template of a replacement replaces the selected matches by what the
replacement means, so an ampersand alone changes nothing. The template of a command is that of its
field, escapes included. -/
theorem apply_faithful (replacement : Text) (r : Regex) (line : Text) :
    (∀ s : Substitution, s.template = toTemplate replacement →
      (∃ ms, r.Selects s.flags.global line ms ∧
        Rewritten (fun m => expansion (groupText line m) replacement) 0 line ms
          (s.apply r line)) ∧
      (replacement = ['&'] → s.apply r line = line)) ∧
    ∀ t s, parse t = .ok s → s.template = toTemplate (replacementField t) := by
  refine ⟨fun s template => ⟨apply_rewritten template r line, ?_⟩, fun t s => template_of_parse⟩
  rintro rfl
  exact apply_ampersand template r line

/-- A dollar in front of a digit is no group, and a backslash takes the ampersand its meaning. With
and without the flag for all matches. -/
theorem apply_faithful_dollar :
    let r : Regex := ⟨['(', 'a', ')', 'b'], false,
      .ofExpr (.seq (.group 1 (.set (.single 'a'))) (.set (.single 'b'))) 1, []⟩
    let typed : Text :=
      ['s', '/', '(', 'a', ')', 'b', '/', '\\', '1', '$', '1', '\\', '&', '&', '/']
    let read (all : Bool) : Substitution :=
      ⟨some ['(', 'a', ')', 'b'],
        ['$', '\x7b', '1', '\x7d', '$', '$', '1', '&', '$', '\x7b', '0', '\x7d'],
        ⟨all, false, false⟩, false⟩
    let line : Text := ['c', 'a', 'b', 'a', 'b']
    let replacement : Text := ['\\', '1', '$', '1', '\\', '&', '&']
    parse (typed ++ ['g']) = .ok (read true) ∧ parse typed = .ok (read false) ∧
      (∀ all, ∃ ms, r.Selects all line ms ∧
        Rewritten (fun m => expansion (groupText line m) replacement) 0 line ms
          ((read all).apply r line)) ∧
      (read true).apply r line = ['c', 'a', '$', '1', '&', 'a', 'b', 'a', '$', '1', '&', 'a', 'b'] ∧
      (read false).apply r line = ['c', 'a', '$', '1', '&', 'a', 'b', 'a', 'b'] ∧
      ∀ all, { read all with template := toTemplate ['&'] }.apply r line = line := by
  intro r typed read line replacement
  have parsed : parse (typed ++ ['g']) = .ok (read true) := rfl
  have field : toTemplate (replacementField (typed ++ ['g'])) = toTemplate replacement := rfl
  refine ⟨parsed, rfl, fun all => ?_, by decide +kernel, by decide +kernel, fun all => ?_⟩
  · obtain ⟨faithful, template⟩ := apply_faithful replacement r line
    exact (faithful (read all) ((template _ _ parsed).trans field)).1
  · exact ((apply_faithful ['&'] r line).1 _ rfl).2 rfl

end Substitution

end LineEditor
