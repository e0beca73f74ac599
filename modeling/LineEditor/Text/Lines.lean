import LineEditor.Text.Basic

/-! Lines that are put together end in a newline each. They are lists of anything, since both
characters and bytes make lines. -/
namespace LineEditor.Text

variable {α : Type}

def joinLines (newline : α) (lines : List (List α)) : List α :=
  lines.flatMap (· ++ [newline])

@[simp] theorem joinLines_nil (newline : α) : joinLines newline [] = [] := rfl

@[simp] theorem joinLines_cons (newline : α) (line : List α) (lines : List (List α)) :
    joinLines newline (line :: lines) = line ++ newline :: joinLines newline lines := by
  simp [joinLines]

end LineEditor.Text
