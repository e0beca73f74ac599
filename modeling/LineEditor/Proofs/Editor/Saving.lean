import LineEditor.Proofs.Address.Rest
import LineEditor.Proofs.Editor.Splice
import LineEditor.Proofs.Files
import LineEditor.Proofs.Text.Utf8

/-! Writing a document under a name and loading it again. Both commands print the length of the file,
and the lines come back as they were. -/
namespace LineEditor

namespace Text

structure Trimmed (t : Text) : Prop where
  head : ∀ c ∈ t.head?, isWhitespace c = false
  last : ∀ c ∈ t.getLast?, isWhitespace c = false

instance (t : Text) : Decidable (Trimmed t) :=
  have : Decidable (∀ c ∈ t.head?, isWhitespace c = false) := Option.decidableForallMem t.head?
  have : Decidable (∀ c ∈ t.getLast?, isWhitespace c = false) :=
    Option.decidableForallMem t.getLast?
  decidable_of_iff ((∀ c ∈ t.head?, isWhitespace c = false) ∧
    ∀ c ∈ t.getLast?, isWhitespace c = false) ⟨fun h => ⟨h.1, h.2⟩, fun h => ⟨h.head, h.last⟩⟩

theorem dropWhile_of_head {t : Text} (h : ∀ c ∈ t.head?, isWhitespace c = false) :
    t.dropWhile isWhitespace = t := by
  cases t with
  | nil => rfl
  | cons c t => exact List.dropWhile_cons_of_neg (by simp [h c rfl])

theorem Trimmed.trim_eq {t : Text} (h : t.Trimmed) : trim t = t := by
  rw [trim, trimStart, dropWhile_of_head h.head, trimEnd, dropWhile_of_head ?last,
    List.reverse_reverse]
  case last =>
    intro c member
    rw [List.head?_reverse] at member
    exact h.last c member

end Text

namespace Document

variable {d : Document} {s : Surroundings} {name : Text}

theorem load_run {loaded : Loaded} (read : s.files.load name = .ok loaded) :
    (d.load name).run s = ((.ok loaded.byteLength, .ofLoaded name loaded), s) := by
  simp only [load, Dialogue.run, read]

theorem load_run_unread {error : FileError} (unread : s.files.load name = .error error) :
    (d.load name).run s = ((.error .cannotOpen, d), s) := by
  simp only [load, Dialogue.run, unread]

end Document

namespace Editor

def named (verb : Char) (name : Text) : Text := verb :: ' ' :: name

section

variable {verb : Char} {name : Text} {i : Invocation}

theorem word_named (letter : Text.isWhitespace verb = false) (text : i.text = named verb name) :
    i.word = [verb] := by
  have space : Text.isWhitespace ' ' = true := by decide
  simp [Invocation.word, Text.firstWord, text, named, letter, space]

theorem filename_named (letter : Text.isWhitespace verb = false) (nonempty : name ≠ [])
    (trimmed : name.Trimmed) (text : i.text = named verb name) : i.filename = some name := by
  have space : Text.isWhitespace ' ' = true := by decide
  have behind : Text.afterFirstWord i.text = name := by
    simp [Text.afterFirstWord, text, named, letter, space]
  simp [Invocation.filename, behind, trimmed.trim_eq, nonempty]

end

variable {e : Editor} {i : Invocation} {s : Surroundings} {name : Text}

theorem reportCount_run (room : s.sink.room = none) (outcome : Outcome) (count : Nat)
    (d : Document) :
    (e.reportCount outcome (.ok count, d)).run s =
      (⟨e.withDocument d, .ok outcome⟩,
        { s with sink := { s.sink with printed := s.sink.printed ++ [Text.decimal count] } }) := by
  simp [reportCount, printing, Dialogue.run, Sink.print, room]

theorem saveFile_run {files : FileTree} {count : Nat} (word : i.word = ['w'])
    (given : i.filename = some name) (room : s.sink.room = none)
    (saved : s.files.save name e.document.buffer.lines = .ok (files, count)) :
    (e.saveFile i).run s =
      (⟨e.withDocument { e.document with
          filename := e.document.filename.or (some name), modified := false }, .ok .proceed⟩,
        { s with
          sink := { s.sink with printed := s.sink.printed ++ [Text.decimal count] }, files }) := by
  have work : e.saveFile i = (e.document.save (some name)).bind (e.reportCount .proceed) := by
    simp [saveFile, word, given]
  have answered : (e.document.save (some name)).run s =
      ((.ok count, { e.document with
        filename := e.document.filename.or (some name), modified := false }), { s with files }) := by
    simp only [Document.save, Option.some_or, Dialogue.run, saved]
  rw [work, Dialogue.run_bind, answered]
  exact reportCount_run (s := { s with files }) room _ _ _

theorem saveFile_ok {outcome : Outcome} (word : i.word = ['w']) (given : i.filename = some name)
    (ok : ((e.saveFile i).run s).1.result = .ok outcome) :
    ∃ files count, s.files.save name e.document.buffer.lines = .ok (files, count) := by
  cases saved : s.files.save name e.document.buffer.lines with
  | ok result => exact ⟨_, _, rfl⟩
  | error error =>
      simp [saveFile, word, given, Document.save, Dialogue.run_bind, Dialogue.run, saved,
        reportCount, refuse] at ok

def here (e : Editor) (command : Text) : Resolution :=
  ⟨e.document.cursor, e.document.cursor, command, e.document.cursor, none⟩

theorem resolved_here (e : Editor) (command : Text) : e.resolved (e.here command) = e := rfl

section

variable {verb : Char} {kind : Verb}

theorem resolve_named (letter : isAddressChar verb = false) :
    resolve (named verb name) e.document.buffer e.document.cursor e.lastPattern =
      if e.document.cursor ≤ e.document.buffer.lineCount then .ok (e.here (named verb name))
      else .error .invalidAddress :=
  resolve_verb (Text.free_cons verb letter) (List.cons_ne_nil _ _)

theorem cursor_le_of_ok {outcome : Outcome} (letter : isAddressChar verb = false)
    (ok : ((e.tryExecute (named verb name)).run s).1.result = .ok outcome) :
    e.document.cursor ≤ e.document.buffer.lineCount := by
  refine Decidable.byContradiction fun outside => ?_
  simp only [tryExecute, resolve_named letter, if_neg outside, refuse, Dialogue.run] at ok
  cases ok

theorem tryExecute_named (letter : isAddressChar verb = false)
    (known : Verb.ofChar? verb = some kind)
    (inside : e.document.cursor ≤ e.document.buffer.lineCount) :
    e.tryExecute (named verb name) =
      (e.run (e.here (named verb name)).invocation kind).map e.settle := by
  have resolution := @resolve_named e name verb letter
  rw [if_pos inside] at resolution
  have ran := tryExecute_eq resolution known
  rwa [resolved_here] at ran

end

section

variable (nonempty : name ≠ []) (trimmed : name.Trimmed)

include nonempty trimmed

theorem tryExecute_load_eq (inside : e.document.cursor ≤ e.document.buffer.lineCount) :
    e.tryExecute (named 'E' name) =
      ((e.document.load name).bind (e.reportCount .proceed)).map e.settle := by
  let i := (e.here (named 'E' name)).invocation
  have word : i.word = ['E'] := word_named (by decide) rfl
  have given : i.filename = some name := filename_named (by decide) nonempty trimmed rfl
  have known : e.run i (.load false) = (e.document.load name).bind (e.reportCount .proceed) := by
    have unguarded : ¬ i.word ≠ [i.verb] := not_not_intro word
    rw [run, loadFile, if_neg unguarded, given]
    rfl
  rw [@tryExecute_named e name 'E' (.load false) (by decide) rfl inside, known]

variable (room : s.sink.room = none)

include room

theorem tryExecute_save {outcome : Outcome}
    (ok : ((e.tryExecute (named 'w' name)).run s).1.result = .ok outcome) :
    ∃ files count, s.files.save name e.document.buffer.lines = .ok (files, count) ∧
      (e.tryExecute (named 'w' name)).run s =
        (⟨e.withDocument { e.document with
            filename := e.document.filename.or (some name), modified := false }, .ok .proceed⟩,
          { s with
            sink := { s.sink with printed := s.sink.printed ++ [Text.decimal count] }, files }) := by
  have inside := cursor_le_of_ok (by decide) ok
  have ran := @tryExecute_named e name 'w' .save (by decide) rfl inside
  let i := (e.here (named 'w' name)).invocation
  have word : i.word = ['w'] := word_named (by decide) rfl
  have given : i.filename = some name := filename_named (by decide) nonempty trimmed rfl
  rw [ran, Dialogue.run_map, settle_result] at ok
  obtain ⟨files, count, saved⟩ := saveFile_ok word given ok
  refine ⟨files, count, saved, ?_⟩
  rw [ran, Dialogue.run_map, show e.run i .save = e.saveFile i from rfl,
    saveFile_run word given room saved]
  rfl

theorem tryExecute_load {loaded : Loaded}
    (inside : e.document.cursor ≤ e.document.buffer.lineCount)
    (read : s.files.load name = .ok loaded) :
    (e.tryExecute (named 'E' name)).run s =
      (⟨e.withDocument (.ofLoaded name loaded), .ok .proceed⟩,
        { s with sink := { s.sink with
          printed := s.sink.printed ++ [Text.decimal loaded.byteLength] } }) := by
  rw [tryExecute_load_eq nonempty trimmed inside, Dialogue.run_map, Dialogue.run_bind,
    Document.load_run read, reportCount_run room]
  rfl

end

end Editor

end LineEditor
