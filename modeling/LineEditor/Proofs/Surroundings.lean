import LineEditor.Surroundings
import LineEditor.Proofs.Exchange

/-! What a dialogue leaves of its surroundings. Lines are taken from the front of the input, and
printed lines come behind those before; the output fails only if there is a limit to it, and what is
loaded was decoded from bytes. -/
namespace LineEditor

namespace Source

def blockOf (lines : List Text) : List Text := lines.takeWhile (· ≠ terminator)

def takenOf (lines : List Text) : List Text :=
  blockOf lines ++ (lines.dropWhile (· ≠ terminator)).take 1

def behindBlock (lines : List Text) : List Text := (lines.dropWhile (· ≠ terminator)).drop 1

theorem takenOf_append_behindBlock (lines : List Text) :
    takenOf lines ++ behindBlock lines = lines := by
  rw [takenOf, behindBlock, List.append_assoc, List.take_append_drop, blockOf,
    List.takeWhile_append_dropWhile]

theorem takeBlock_eq (fails : Bool) (lines : List Text) :
    takeBlock fails lines =
      (if terminator ∈ lines ∨ fails = false then some (blockOf lines) else none,
        behindBlock lines) := by
  induction lines with
  | nil => cases fails <;> rfl
  | cons line lines ih =>
      by_cases ends : line = terminator
      · subst ends
        simp [takeBlock, blockOf, behindBlock]
      · have front : blockOf (line :: lines) = line :: blockOf lines := by
          simp [blockOf, ends]
        have behind : behindBlock (line :: lines) = behindBlock lines := by
          simp [behindBlock, ends]
        simp only [takeBlock, ends, if_false, ih, front, behind, List.mem_cons, Ne.symm ends,
          false_or]
        split <;> rfl

theorem readBlock_eq (s : Source) :
    s.readBlock =
      (if terminator ∈ s.lines ∨ s.fails = false then some (blockOf s.lines) else none,
        { s with lines := behindBlock s.lines }) := by
  simp only [readBlock, takeBlock_eq]

end Source

theorem Sink.room_print {s : Sink} (h : s.room = none) (line : Text) :
    (s.print line).1 = true ∧ (s.print line).2.room = none := by
  simp only [print, h, and_self]

def Sink.Takes (s : Sink) (count : Nat) : Prop := ∀ room ∈ s.room, count ≤ room

theorem Sink.takes_of_unlimited {s : Sink} (h : s.room = none) (count : Nat) : s.Takes count := by
  intro room member
  rw [h] at member
  cases member

namespace Dialogue

variable {α β : Type}

theorem run_source (d : Dialogue α) (s : Surroundings) :
    (d.run s).2.source.lines <:+ s.source.lines ∧ (d.run s).2.source.fails = s.source.fails := by
  induction d generalizing s with
  | done a => exact ⟨List.suffix_rfl, rfl⟩
  | readBlock next ih =>
      obtain ⟨suffix, fails⟩ := ih s.source.readBlock.1 { s with source := s.source.readBlock.2 }
      refine ⟨suffix.trans ?_, fails⟩
      rw [Source.readBlock_eq]
      exact ⟨_, Source.takenOf_append_behindBlock s.source.lines⟩
  | print line next ih =>
      exact ih (s.sink.print line).1 { s with sink := (s.sink.print line).2 }
  | load name next ih => exact ih (s.files.load name) s
  | save name lines next ih =>
      unfold run
      split
      · exact ih _ _
      · exact ih _ s

theorem run_room (d : Dialogue α) {s : Surroundings} (h : s.sink.room = none) :
    (d.run s).2.sink.room = none := by
  induction d generalizing s with
  | done a => exact h
  | readBlock next ih => exact ih _ h
  | print line next ih => exact ih _ (s.sink.room_print h line).2
  | load name next ih => exact ih _ h
  | save name lines next ih =>
      unfold run
      split
      · exact ih _ h
      · exact ih _ h

def Silent : Dialogue α → Prop
  | done _ => True
  | readBlock _ => False
  | print _ next => ∀ printed, (next printed).Silent
  | load _ next => ∀ loaded, (next loaded).Silent
  | save _ _ next => ∀ saved, (next saved).Silent

theorem Silent.bind {d : Dialogue α} {f : α → Dialogue β} (first : d.Silent)
    (rest : ∀ a, (f a).Silent) : (d.bind f).Silent := by
  induction d with
  | done a => exact rest a
  | readBlock next => exact first.elim
  | print line next ih => exact fun printed => ih printed (first printed)
  | load name next ih => exact fun loaded => ih loaded (first loaded)
  | save name lines next ih => exact fun saved => ih saved (first saved)

theorem Silent.run_source {d : Dialogue α} (silent : d.Silent) (s : Surroundings) :
    (d.run s).2.source = s.source := by
  induction d generalizing s with
  | done a => rfl
  | readBlock next => exact silent.elim
  | print line next ih =>
      exact ih (s.sink.print line).1 (silent _) { s with sink := (s.sink.print line).2 }
  | load name next ih => exact ih (s.files.load name) (silent _) s
  | save name lines next ih =>
      unfold run
      split
      · exact ih _ (silent _) _
      · exact ih _ (silent _) s

theorem Silent.map {d : Dialogue α} (silent : d.Silent) (f : α → β) : (d.map f).Silent :=
  silent.bind fun _ => trivial

def ReadsOnce (d : Dialogue α) : Prop :=
  ∃ next, d = .readBlock next ∧ ∀ block, (next block).Silent

theorem ReadsOnce.map {d : Dialogue α} (once : d.ReadsOnce) (f : α → β) : (d.map f).ReadsOnce := by
  obtain ⟨next, rfl, silent⟩ := once
  exact ⟨_, rfl, fun block => (silent block).map f⟩

theorem ReadsOnce.run_source {d : Dialogue α} (once : d.ReadsOnce) (s : Surroundings) :
    (d.run s).2.source = s.source.readBlock.2 := by
  obtain ⟨next, rfl, silent⟩ := once
  exact (silent s.source.readBlock.1).run_source { s with source := s.source.readBlock.2 }

end Dialogue

def Exchange.PossibleIn (s : Surroundings) : Exchange → Prop
  | readBlock block => ∀ lines, block = some lines → lines ⊆ s.source.lines
  | print _ printed => s.sink.room = none → printed = true
  | load _ loaded => ∀ l, loaded = .ok l → ∃ bytes, l = .ofBytes bytes
  | save _ _ _ => True

theorem Exchange.PossibleIn.earlier {s after : Surroundings} {x : Exchange}
    (h : x.PossibleIn after) (lines : after.source.lines ⊆ s.source.lines)
    (room : s.sink.room = none → after.sink.room = none) : x.PossibleIn s := by
  cases x with
  | readBlock block => exact fun typed same => List.Subset.trans (h typed same) lines
  | print line printed => exact fun unlimited => h (room unlimited)
  | load name loaded => exact h
  | save name lines saved => trivial

theorem FileTree.load_ok {tree : FileTree} {name : Text} {loaded : Loaded}
    (h : tree.load name = .ok loaded) : ∃ bytes, loaded = .ofBytes bytes := by
  unfold load at h
  cases read : tree.read name with
  | ok bytes =>
      rw [read] at h
      cases h
      exact ⟨bytes, rfl⟩
  | error e =>
      rw [read] at h
      cases h

/-- Whatever the surroundings answer, they could have answered it at the beginning. -/
theorem Dialogue.possible_exchanges {α : Type} (d : Dialogue α) (s : Surroundings) :
    ∀ x ∈ d.exchanges s, x.PossibleIn s := by
  induction d generalizing s with
  | done a => simp [exchanges]
  | readBlock next ih =>
      rintro x (_ | ⟨_, member⟩)
      · intro lines read
        rw [Source.takeBlock_eq] at read
        dsimp only at read
        split at read
        · cases read
          exact List.takeWhile_subset _
        · cases read
      · refine (ih _ _ x member).earlier ?_ id
        rw [Source.takeBlock_eq]
        exact List.IsSuffix.subset ⟨_, Source.takenOf_append_behindBlock s.source.lines⟩
  | print line next ih =>
      rintro x (_ | ⟨_, member⟩)
      · exact fun unlimited => (Sink.room_print unlimited line).1
      · exact (ih _ _ x member).earlier (List.Subset.refl _) fun unlimited =>
          (Sink.room_print unlimited line).2
  | load name next ih =>
      rintro x (_ | ⟨_, member⟩)
      · exact fun loaded read => FileTree.load_ok read
      · exact ih _ _ x member
  | save name lines next ih =>
      cases answer : s.files.save name lines with
      | ok saved =>
          simp only [exchanges, answer]
          rintro x (_ | ⟨_, member⟩)
          · trivial
          · exact (ih _ _ x member).earlier (List.Subset.refl _) id
      | error e =>
          simp only [exchanges, answer]
          rintro x (_ | ⟨_, member⟩)
          · trivial
          · exact ih _ _ x member

theorem Dialogue.goes_run_possible {α : Type} (d : Dialogue α) (s : Surroundings) :
    ∃ xs, d.Goes xs (d.run s).1 ∧ ∀ x ∈ xs, x.PossibleIn s :=
  ⟨_, d.goes_exchanges s, d.possible_exchanges s⟩

def Exchange.printed? : Exchange → Option Text
  | print line true => some line
  | _ => none

def printedLines (xs : List Exchange) : List Text := xs.filterMap Exchange.printed?

theorem printedLines_of_isVain {xs : List Exchange} (vain : ∀ x ∈ xs, x.isVain = true) :
    printedLines xs = [] := by
  rw [printedLines, List.filterMap_eq_nil_iff]
  intro x member
  have none := vain x member
  unfold Exchange.isVain at none
  split at none
  · rfl
  · rfl
  · rfl
  · cases none

theorem Dialogue.run_printed {α : Type} (d : Dialogue α) (s : Surroundings) :
    (d.run s).2.sink.printed = s.sink.printed ++ printedLines (d.exchanges s) := by
  induction d generalizing s with
  | done a => exact (List.append_nil _).symm
  | readBlock next ih => exact ih s.source.readBlock.1 { s with source := s.source.readBlock.2 }
  | print line next ih =>
      refine (ih (s.sink.print line).1 { s with sink := (s.sink.print line).2 }).trans ?_
      obtain ⟨source, ⟨printed, room⟩, files⟩ := s
      have cons (taken : Bool) (xs : List Exchange) : printedLines (.print line taken :: xs) =
          (if taken then [line] else []) ++ printedLines xs := by cases taken <;> rfl
      rcases room with _ | _ | room
      · simp [Sink.print, exchanges, cons]
      · simp [Sink.print, exchanges, cons]
      · simp [Sink.print, exchanges, cons]
  | load name next ih => exact ih (s.files.load name) s
  | save name lines next ih =>
      cases answer : s.files.save name lines with
      | ok saved =>
          simp only [exchanges, run, answer]
          exact ih (.ok saved.2) { s with files := saved.1 }
      | error error =>
          simp only [exchanges, run, answer]
          exact ih (.error error) s

def AllPrinted (xs : List Exchange) : Prop := ∀ line, .print line false ∉ xs

theorem Dialogue.allPrinted_exchanges {α : Type} (d : Dialogue α) {s : Surroundings}
    (room : s.sink.room = none) : AllPrinted (d.exchanges s) := by
  intro line member
  cases d.possible_exchanges s _ member room

end LineEditor
