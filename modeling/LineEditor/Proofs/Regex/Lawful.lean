import LineEditor.Proofs.Failure
import LineEditor.Proofs.Regex.Literal
import LineEditor.Proofs.Regex.Replacing
import LineEditor.Proofs.Regex.Templates

/-! The engine of the editor has the properties that the editor relies on. -/
namespace LineEditor.Regex

def engine : Engine Regex where
  compile := Regex.compile
  source := Regex.source
  ignoreCase := Regex.ignoreCase
  search r := r.program.find
  expand r t m template := r.expand t m (templateParts template)
  replace := replace
  longestWord := longestWord

theorem compile_keeps {ignoreCase : Bool} {source : Text} {r : Regex}
    (compiled : Regex.compile ignoreCase source = .ok r) :
    r.source = source ∧ r.ignoreCase = ignoreCase := by
  obtain ⟨pattern, -, compiled⟩ := of_bind_ok compiled
  split at compiled
  · cases compiled
    exact ⟨rfl, rfl⟩
  · cases compiled

theorem replace_rewrites (r : Regex) (all : Bool) (template t : Text) :
    ∃ every, Iterates r.program.find (.start t) none every ∧
      Rewritten (fun m => r.expand t m (templateParts template)) 0 t
        (if all then every else every.take 1) ((r.replace all template t).getD t) := by
  have selects := r.selected_selects all t
  obtain ⟨every, iterates, same⟩ := id selects
  refine ⟨every, iterates, ?_⟩
  rw [replace_getD, ← same]
  exact selects.rewritten _

theorem compile_question (v : Text) :
    Regex.compile false ('?' :: v) = .error .repetitionMissing := by
  rw [Regex.compile, Pattern.read_question, error_bind]

theorem engine_lawful : engine.Lawful where
  compile_keeps := compile_keeps
  compile_word plain :=
    ⟨fun short => ⟨_, (compile_word plain).trans (if_pos short), findsWord rfl⟩,
      fun long => ⟨_, (compile_word plain).trans (if_neg long)⟩⟩
  compile_optional before plain behind :=
    have compiled := compile_optional before plain behind
    ⟨fun short => ⟨_, compiled.trans (if_pos short), isMatch_wordWithout rfl⟩,
      fun long => ⟨_, compiled.trans (if_neg long)⟩⟩
  compile_question v := ⟨_, compile_question v⟩
  compile_operator := compile_operator
  replace_rewrites := replace_rewrites
  expand_nil _ _ _ := rfl
  expand_char := expand_char
  expand_dollar := expand_dollar
  expand_group := expand_group
  expand_subset := expand_subset

end LineEditor.Regex
