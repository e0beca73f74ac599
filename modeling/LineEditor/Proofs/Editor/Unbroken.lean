import LineEditor.Proofs.Address.Rest
import LineEditor.Proofs.Editor.Ending
import LineEditor.Proofs.Replacement
import LineEditor.Proofs.Surroundings
import LineEditor.Proofs.Text.Utf8

/-! No command breaks a line: if no line that is typed or loaded holds a newline, then no line of the
document does. -/
namespace LineEditor

def Unbroken (lines : List Text) : Prop := ∀ line ∈ lines, '\n' ∉ line

namespace Buffer

variable {b : Buffer}

theorem unbroken_spliceAt {new : List Text} (old : Unbroken b.lines) (typed : Unbroken new)
    (n : Nat) : Unbroken (b.spliceAt n new).lines := by
  intro line member
  simp only [spliceAt, List.mem_append] at member
  rcases member with (front | inside) | behind
  · exact old line (List.take_subset _ _ front)
  · exact typed line inside
  · exact old line (List.drop_subset _ _ behind)

theorem unbroken_mapRange {f : Text → Text} (old : Unbroken b.lines)
    (kept : ∀ line, '\n' ∉ line → '\n' ∉ f line) (start stop : Nat) :
    Unbroken (b.mapRange start stop f).lines := by
  intro line member
  obtain ⟨n, inside, rfl⟩ := List.mem_mapIdx.mp member
  have before := old _ (List.getElem_mem inside)
  split
  · exact kept _ before
  · exact before

end Buffer

namespace Document

variable {d after : Document}

theorem insert_unbroken {position : InsertPosition} {addr : Nat} {lines : List Text}
    (work : d.insert position addr lines = .ok after) (old : Unbroken d.buffer.lines)
    (typed : Unbroken lines) : Unbroken after.buffer.lines := by
  obtain ⟨n, rfl⟩ := insert_ok work
  rw [afterInsert_buffer]
  exact Buffer.unbroken_spliceAt old typed n

theorem delete_unbroken {start stop : Nat} {removed : List Text}
    (work : d.delete start stop = .ok (after, removed)) (old : Unbroken d.buffer.lines) :
    Unbroken after.buffer.lines := by
  unfold delete Buffer.delete at work
  split at work
  · cases work
    intro line member
    rcases List.mem_append.mp member with front | behind
    · exact old line (List.take_subset _ _ front)
    · exact old line (List.drop_subset _ _ behind)
  · cases work

end Document

def Exchange.Unbroken : Exchange → Prop
  | readBlock block => ∀ lines, block = some lines → LineEditor.Unbroken lines
  | load _ loaded => ∀ l, loaded = .ok l → LineEditor.Unbroken l.lines
  | print _ _ | save _ _ _ => True

theorem Exchange.PossibleIn.unbroken {s : Surroundings} {x : Exchange} (h : x.PossibleIn s)
    (typed : LineEditor.Unbroken s.source.lines) : x.Unbroken := by
  cases x with
  | readBlock block => exact fun lines read line member => typed line (h lines read member)
  | print line printed => trivial
  | load name loaded =>
      intro l read
      obtain ⟨bytes, rfl⟩ := h l read
      rw [Loaded.ofBytes, linesOfFile_eq_linesOfBytes]
      exact newline_notMem_linesOfBytes bytes
  | save name lines saved => trivial

namespace Editor

variable {e : Editor} {i : Invocation} {xs : List Exchange} {reply : Reply}

theorem Ending.unbroken {verb : Verb} (ending : e.Ending i verb xs reply) (command : '\n' ∉ i.text)
    (outside : ∀ x ∈ xs, x.Unbroken) (old : Unbroken e.document.buffer.lines) :
    Unbroken reply.editor.document.buffer.lines := by
  cases ending with
  | refused | warned | saved | explained | left => exact old
  | @printed _ all =>
      cases all with
      | true => exact old
      | false => exact old
  | inserted bare work =>
      exact Document.insert_unbroken work old (outside _ List.mem_cons_self _ rfl)
  | deleted bare work => exact Document.delete_unbroken work old
  | changed bare out work =>
      have between := Document.delete_unbroken out old
      exact Document.insert_unbroken work between (outside _ List.mem_cons_self _ rfl)
  | loaded => exact outside _ List.mem_cons_self _ rfl
  | substituted parsed =>
      exact Buffer.unbroken_mapRange old
        (fun line => Substitution.newline_notMem_apply parsed command) _ _

theorem tryExecute_unbroken {line : Text} {s : Surroundings} (command : '\n' ∉ line)
    (typed : Unbroken s.source.lines) (old : Unbroken e.document.buffer.lines) :
    Unbroken ((e.tryExecute line).run s).1.editor.document.buffer.lines := by
  obtain ⟨xs, goes, possible⟩ := (e.tryExecute line).goes_run_possible s
  rcases tryExecute_cases goes with ⟨error, -, -, same⟩ | ⟨r, verb, raw, resolution, -, ending, same⟩
  · rw [same]
    exact old
  · have text : '\n' ∉ r.invocation.text := by
      intro member
      rcases resolve_rest_subset resolution member with inside | other
      · exact command inside
      · cases other
    rw [same, settle_buffer]
    exact ending.unbroken text (fun x member => (possible x member).unbroken typed) old

end Editor

end LineEditor
