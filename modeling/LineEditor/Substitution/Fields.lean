import LineEditor.Text.Basic

/-! The fields of a substitution stand behind the verb, each behind a delimiter. A delimiter that is
meant as such has a backslash in front, which is dropped; all other escapes are kept. -/
namespace LineEditor.Substitution

def extendFirst (t : Text) : List Text → List Text
  | [] => [t]
  | field :: fields => (t ++ field) :: fields

def splitFields (delimiter : Char) : Text → List Text
  | [] => [[]]
  | c :: t =>
      if c = delimiter then [] :: splitFields delimiter t
      else if c = '\\' then
        match t with
        | [] => [['\\']]
        | e :: t =>
            extendFirst (if e = delimiter then [e] else ['\\', e]) (splitFields delimiter t)
      else extendFirst [c] (splitFields delimiter t)

theorem splitFields_ne_nil (delimiter : Char) (t : Text) : splitFields delimiter t ≠ [] := by
  have extend (u : Text) (fields : List Text) : extendFirst u fields ≠ [] := by
    cases fields <;> simp [extendFirst]
  unfold splitFields
  split
  · simp
  · split
    · simp
    · split
      · split
        · simp
        · exact extend _ _
      · exact extend _ _

end LineEditor.Substitution
