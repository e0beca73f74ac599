import LineEditor.Proofs.Address.Notation
import LineEditor.Proofs.Address.Range

/-! All lines of a document are written as a percent sign or as a comma. Blanks behind the comma are
skipped like those behind any other part of a chain, but blanks behind the percent sign are left in
front of the command. -/
namespace LineEditor

theorem Addresses.read_percent (t : Text) : Addresses.read ('%' :: t) = (.whole, t) := rfl

def loneComma : Chain := ⟨⟨none, []⟩, [(.comma, ⟨none, []⟩)], false⟩

section

variable {gap v text rest : Text} {a : Addresses} {b : Buffer} {current : Nat} {last : Option Regex}

theorem Addresses.read_comma (blank : Text.Blank gap) (ends : Text.Free extendsChain v) :
    Addresses.read (',' :: (gap ++ v)) = (.chain loneComma, v) := by
  have nothing : Component.Written ⟨none, []⟩ [] := .offsets .nil
  have written : loneComma.Written ([] ++ [] ++ (',' :: gap ++ [] ++ [])) :=
    .mk (by decide) nothing (.cons .comma blank nothing .nil)
  have typed : ',' :: (gap ++ v) = [] ++ [] ++ (',' :: gap ++ [] ++ []) ++ v := by simp
  have notWhole : (Text.dropBlanks (',' :: (gap ++ v))).head? ≠ some '%' := by
    rw [Text.dropBlanks, List.dropWhile_cons_of_neg (by decide), List.head?_cons]
    decide
  rw [typed] at notWhole ⊢
  exact Addresses.read_chain written ends notWhole

theorem loneComma_evaluate (p : Progress) :
    loneComma.evaluate b last p = .ok (p, [b.lineCount, min 1 b.lineCount]) := by
  have first : b.require (min 1 b.lineCount) = .ok () := if_pos b.holds_min_one
  have behind : b.require b.lineCount = .ok () := if_pos b.holds_lineCount
  have nothing : Component.value b last p ⟨none, []⟩ = .ok (none, p) := rfl
  simp only [loneComma, Chain.evaluate, evaluateMore, nothing, ok_bind, Option.getD_none,
    Separator.missing, Separator.move, first, behind, Option.isNone_none, Bool.and_self, if_true,
    Bool.false_eq_true, if_false]
  rfl

theorem resolve_whole (read : Addresses.read text = (a, rest))
    (all : a.evaluate b last ⟨current, none⟩ =
      .ok (⟨current, none⟩, [b.lineCount, min 1 b.lineCount])) :
    resolve text b current last =
      .ok ⟨min 1 b.lineCount, b.lineCount, orPrint rest, current, none⟩ := by
  have inside : min 1 b.lineCount ≤ b.lineCount ∧ b.lineCount ≤ b.lineCount := by omega
  simp only [resolve, read, all, ok_bind, chooseRange, if_pos inside]
  rfl

theorem orPrint_eq (t : Text) : orPrint t = if t = [] then ['p'] else t := by
  simp only [orPrint, List.isEmpty_iff]

/-- A blank is no verb, so the command that is printed for want of one does not hide it. -/
theorem orPrint_blanks (blank : Text.Blank gap) :
    orPrint (gap ++ v) = orPrint v ↔ gap = [] := by
  refine ⟨fun same => ?_, fun none => by rw [none, List.nil_append]⟩
  cases gap with
  | nil => rfl
  | cons c gap =>
      have first : Text.isBlank c = true := blank c List.mem_cons_self
      cases v with
      | nil =>
          have print : c :: (gap ++ []) = ['p'] := same
          rw [(List.cons_eq_cons.mp print).1] at first
          exact absurd first (by decide)
      | cons e v =>
          have longer : (c :: gap ++ e :: v).length = (e :: v).length := congrArg List.length same
          simp only [List.length_append, List.length_cons] at longer
          omega

end

/-- A percent sign and a comma stand for the same lines, all of them, and leave the current line and
the pattern alone. They are the same addresses exactly if no blanks follow: a comma takes them, and
a percent sign leaves them to the command. -/
theorem resolve_percent_comma {gap v : Text} (blank : Text.Blank gap)
    (ends : Text.Free extendsChain v) (b : Buffer) (current : Nat) (last : Option Regex) :
    resolve (',' :: (gap ++ v)) b current last =
      .ok ⟨min 1 b.lineCount, b.lineCount, if v = [] then ['p'] else v, current, none⟩ ∧
    resolve ('%' :: (gap ++ v)) b current last =
      .ok ⟨min 1 b.lineCount, b.lineCount, if gap ++ v = [] then ['p'] else gap ++ v, current,
        none⟩ ∧
    (resolve ('%' :: (gap ++ v)) b current last = resolve (',' :: (gap ++ v)) b current last ↔
      gap = []) := by
  have comma : resolve (',' :: (gap ++ v)) b current last = _ :=
    resolve_whole (Addresses.read_comma blank ends) (loneComma_evaluate _)
  have percent : resolve ('%' :: (gap ++ v)) b current last = _ :=
    resolve_whole (Addresses.read_percent (gap ++ v)) rfl
  rw [comma, percent, ← orPrint_eq, ← orPrint_eq, ← orPrint_blanks blank]
  refine ⟨rfl, rfl, fun same => ?_, fun same => by rw [same]⟩
  rw [Except.ok.injEq, Resolution.mk.injEq] at same
  exact same.2.2.1

theorem resolve_percent_comma_spaced :
    let b : Buffer := ⟨[['a'], ['b']]⟩
    Text.Blank [' '] ∧ Text.Free extendsChain ['p'] ∧
      resolve [',', ' ', 'p'] b 2 none = .ok ⟨1, 2, ['p'], 2, none⟩ ∧
      resolve ['%', ' ', 'p'] b 2 none = .ok ⟨1, 2, [' ', 'p'], 2, none⟩ ∧
      resolve ['%', ' ', 'p'] b 2 none ≠ resolve [',', ' ', 'p'] b 2 none := by
  intro b
  have blank : Text.Blank [' '] := by decide
  have free : Text.Free extendsChain ['p'] := by decide
  obtain ⟨comma, percent, same⟩ := resolve_percent_comma blank free b 2 none
  exact ⟨blank, free, comma, percent, fun alike => absurd (same.mp alike) (by decide)⟩

/-- The percent sign and the comma are not the same range for every spacing: a blank in front of the
verb makes the one a command that does not exist. -/
theorem percent_blank_differs :
    ¬ ∀ (gap v : Text) (b : Buffer) (current : Nat) (last : Option Regex), Text.Blank gap →
      Text.Free extendsChain v → b.HasLine current →
      resolve ('%' :: (gap ++ v)) b current last = resolve (',' :: (gap ++ v)) b current last := by
  intro same
  have alike := same [' '] ['p'] ⟨[['a']]⟩ 1 none (by decide) (by decide) (by decide)
  have percent : resolve ['%', ' ', 'p'] ⟨[['a']]⟩ 1 none = .ok ⟨1, 1, [' ', 'p'], 1, none⟩ := rfl
  have comma : resolve [',', ' ', 'p'] ⟨[['a']]⟩ 1 none = .ok ⟨1, 1, ['p'], 1, none⟩ := rfl
  cases percent.symm.trans (alike.trans comma)

end LineEditor
