import LineEditor.Address.Scanner
import LineEditor.Substitution.Fields
import LineEditor.Substitution.Replacement

/-! Text in which a backslash belongs to the character behind it, and the functions that go through it
from the left. -/
namespace LineEditor

theorem Text.pairs_induction {motive : Text → Prop} (nil : motive []) (lone : motive ['\\'])
    (pair : ∀ c t, motive t → motive ('\\' :: c :: t))
    (char : ∀ c t, c ≠ '\\' → motive t → motive (c :: t)) : ∀ t, motive t
  | [] => nil
  | [c] => if escape : c = '\\' then escape ▸ lone else char c [] escape nil
  | c :: d :: t =>
      if escape : c = '\\' then escape ▸ pair d t (pairs_induction nil lone pair char t)
      else char c (d :: t) escape (pairs_induction nil lone pair char (d :: t))

/-- Induction up to the delimiters. A delimiter that is a backslash has nothing to escape. -/
theorem Text.delimited_induction {motive : Text → Prop} (delimiter : Char) (nil : motive [])
    (ended : ∀ t, motive t → motive (delimiter :: t))
    (lone : '\\' ≠ delimiter → motive ['\\'])
    (pair : ∀ c t, '\\' ≠ delimiter → motive t → motive ('\\' :: c :: t))
    (char : ∀ c t, c ≠ delimiter → c ≠ '\\' → motive t → motive (c :: t)) (t : Text) :
    motive t := by
  by_cases escape : '\\' = delimiter
  · induction t with
    | nil => exact nil
    | cons c t ih =>
        by_cases same : c = delimiter
        · exact same ▸ ended t ih
        · exact char c t same (escape ▸ same) ih
  · induction t using pairs_induction with
    | nil => exact nil
    | lone => exact lone escape
    | pair c t ih => exact pair c t escape ih
    | char c t plain ih =>
        by_cases same : c = delimiter
        · exact same ▸ ended t ih
        · exact char c t same plain ih

section

variable {delimiter c : Char}

theorem readDelimited_delimiter (delimiter : Char) (t : Text) :
    readDelimited delimiter (delimiter :: t) = ([], t) := by
  rw [readDelimited.eq_def]
  simp

theorem readDelimited_lone (other : '\\' ≠ delimiter) :
    readDelimited delimiter ['\\'] = (['\\'], []) := by
  simp [readDelimited, other]

theorem readDelimited_pair (other : '\\' ≠ delimiter) (c : Char) (t : Text) :
    readDelimited delimiter ('\\' :: c :: t) =
      ((if c = delimiter then [c] else ['\\', c]) ++ (readDelimited delimiter t).1,
        (readDelimited delimiter t).2) := by
  rw [readDelimited.eq_def]
  by_cases same : c = delimiter <;> simp [other, same]

theorem readDelimited_char (notDelimiter : c ≠ delimiter) (notEscape : c ≠ '\\') (t : Text) :
    readDelimited delimiter (c :: t) =
      (c :: (readDelimited delimiter t).1, (readDelimited delimiter t).2) := by
  rw [readDelimited.eq_def]
  simp [notDelimiter, notEscape]

end

namespace Substitution

variable {delimiter c : Char}

theorem splitFields_delimiter (delimiter : Char) (t : Text) :
    splitFields delimiter (delimiter :: t) = [] :: splitFields delimiter t := by
  rw [splitFields.eq_def]
  simp

theorem splitFields_lone (other : '\\' ≠ delimiter) : splitFields delimiter ['\\'] = [['\\']] := by
  simp [splitFields, other]

theorem splitFields_pair (other : '\\' ≠ delimiter) (c : Char) (t : Text) :
    splitFields delimiter ('\\' :: c :: t) =
      extendFirst (if c = delimiter then [c] else ['\\', c]) (splitFields delimiter t) := by
  simp [splitFields, other]

theorem splitFields_char (notDelimiter : c ≠ delimiter) (notEscape : c ≠ '\\') (t : Text) :
    splitFields delimiter (c :: t) = extendFirst [c] (splitFields delimiter t) := by
  rw [splitFields.eq_def]
  simp [notDelimiter, notEscape]

theorem toTemplate_pair (c : Char) (t : Text) :
    toTemplate ('\\' :: c :: t) =
      (if isGroupDigit c then groupReference c else literal c) ++ toTemplate t := rfl

theorem toTemplate_char (plain : c ≠ '\\') (t : Text) :
    toTemplate (c :: t) = (if c = '&' then groupReference '0' else literal c) ++ toTemplate t := by
  rw [toTemplate] <;> simp [plain]

end Substitution

end LineEditor
