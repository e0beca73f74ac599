import LineEditor.Surroundings

/-! The ways a dialogue may go. Nothing is assumed about the answers: typed lines may end or fail at
any reading, any line may be refused by the output, and loading and saving may give anything. -/
namespace LineEditor

inductive Exchange where
  | readBlock (block : Option (List Text))
  | print (line : Text) (printed : Bool)
  | load (name : Text) (loaded : Except FileError Loaded)
  | save (name : Text) (lines : List Text) (saved : Except FileError Nat)

namespace Exchange

def keepsFiles : Exchange → Bool
  | save _ _ (.ok _) => false
  | _ => true

def onlyReads : Exchange → Bool
  | print _ _ => false
  | save _ _ (.ok _) => false
  | _ => true

def isVain : Exchange → Bool
  | readBlock _ | load _ (.error _) | save _ _ (.error _) => true
  | _ => false

def isPrint : Exchange → Bool
  | print _ _ => true
  | _ => false

def stored? : Exchange → Option (List Text)
  | load _ (.ok loaded) => some loaded.lines
  | save _ lines (.ok _) => some lines
  | _ => none

theorem keepsFiles_of_onlyReads {x : Exchange} (h : x.onlyReads = true) : x.keepsFiles = true := by
  unfold onlyReads at h
  split at h
  · rfl
  · cases h
  · simp_all [keepsFiles]

theorem onlyReads_of_isVain {x : Exchange} (h : x.isVain = true) : x.onlyReads = true := by
  unfold isVain at h
  split at h
  · rfl
  · rfl
  · rfl
  · cases h

theorem keepsFiles_of_isPrint {x : Exchange} (h : x.isPrint = true) : x.keepsFiles = true := by
  unfold isPrint at h
  split at h
  · rfl
  · cases h

theorem stored?_of_isPrint {x : Exchange} (h : x.isPrint = true) : x.stored? = none := by
  unfold isPrint at h
  split at h
  · rfl
  · cases h

theorem stored?_of_isVain {x : Exchange} (h : x.isVain = true) : x.stored? = none := by
  unfold isVain at h
  split at h
  · rfl
  · rfl
  · rfl
  · cases h

end Exchange

/-- What a row of exchanges may make of the files, whatever their state consists of. -/
inductive Leaves {Files : Type} : List Exchange → Files → Files → Prop where
  | nothing (files : Files) : Leaves [] files files
  | kept {x : Exchange} {xs : List Exchange} {files after : Files} (h : x.keepsFiles = true)
      (rest : Leaves xs files after) : Leaves (x :: xs) files after
  | saved {name : Text} {lines : List Text} {count : Nat} {xs : List Exchange}
      {files between after : Files} (rest : Leaves xs between after) :
      Leaves (.save name lines (.ok count) :: xs) files after

theorem Leaves.eq_of_kept {Files : Type} {xs : List Exchange} {files after : Files}
    (h : Leaves xs files after) (kept : ∀ x ∈ xs, x.keepsFiles = true) : after = files := by
  induction h with
  | nothing => rfl
  | kept _ _ ih => exact ih fun x hx => kept x (List.mem_cons_of_mem _ hx)
  | saved => exact absurd (kept _ List.mem_cons_self) (by simp [Exchange.keepsFiles])

/-- Exchanges that a file tree answers, and the tree they leave. Loading and saving may fail whatever
is in the tree. What is read and printed on the way does not matter to it. -/
inductive Filed : List Exchange → FileTree → FileTree → Prop where
  | nothing (tree : FileTree) : Filed [] tree tree
  | readBlock {block : Option (List Text)} {xs : List Exchange} {tree after : FileTree}
      (rest : Filed xs tree after) : Filed (.readBlock block :: xs) tree after
  | print {line : Text} {printed : Bool} {xs : List Exchange} {tree after : FileTree}
      (rest : Filed xs tree after) : Filed (.print line printed :: xs) tree after
  | loaded {name : Text} {loaded : Loaded} {xs : List Exchange} {tree after : FileTree}
      (found : tree.load name = .ok loaded) (rest : Filed xs tree after) :
      Filed (.load name (.ok loaded) :: xs) tree after
  | unloaded {name : Text} {error : FileError} {xs : List Exchange} {tree after : FileTree}
      (rest : Filed xs tree after) : Filed (.load name (.error error) :: xs) tree after
  | saved {name : Text} {lines : List Text} {count : Nat} {xs : List Exchange}
      {tree between after : FileTree} (saved : tree.save name lines = .ok (between, count))
      (rest : Filed xs between after) : Filed (.save name lines (.ok count) :: xs) tree after
  | unsaved {name : Text} {lines : List Text} {error : FileError} {xs : List Exchange}
      {tree after : FileTree} (rest : Filed xs tree after) :
      Filed (.save name lines (.error error) :: xs) tree after

theorem Filed.leaves {xs : List Exchange} {tree after : FileTree} (filed : Filed xs tree after) :
    Leaves xs tree after := by
  induction filed with
  | nothing tree => exact .nothing tree
  | readBlock _ ih => exact .kept rfl ih
  | print _ ih => exact .kept rfl ih
  | loaded _ _ ih => exact .kept rfl ih
  | unloaded _ ih => exact .kept rfl ih
  | saved _ _ ih => exact .saved ih
  | unsaved _ ih => exact .kept rfl ih

namespace Dialogue

variable {α β : Type}

/-- The dialogue may have these exchanges and end with this value. -/
inductive Goes : Dialogue α → List Exchange → α → Prop where
  | done (a : α) : Goes (.done a) [] a
  | readBlock {next : Option (List Text) → Dialogue α} {xs : List Exchange} {a : α}
      (block : Option (List Text)) (rest : Goes (next block) xs a) :
      Goes (.readBlock next) (.readBlock block :: xs) a
  | print {line : Text} {next : Bool → Dialogue α} {xs : List Exchange} {a : α}
      (printed : Bool) (rest : Goes (next printed) xs a) :
      Goes (.print line next) (.print line printed :: xs) a
  | load {name : Text} {next : Except FileError Loaded → Dialogue α} {xs : List Exchange} {a : α}
      (loaded : Except FileError Loaded) (rest : Goes (next loaded) xs a) :
      Goes (.load name next) (.load name loaded :: xs) a
  | save {name : Text} {lines : List Text} {next : Except FileError Nat → Dialogue α}
      {xs : List Exchange} {a : α} (saved : Except FileError Nat) (rest : Goes (next saved) xs a) :
      Goes (.save name lines next) (.save name lines saved :: xs) a

theorem Goes.of_bind {d : Dialogue α} {f : α → Dialogue β} {zs : List Exchange} {b : β}
    (h : (d.bind f).Goes zs b) :
    ∃ xs a ys, zs = xs ++ ys ∧ d.Goes xs a ∧ (f a).Goes ys b := by
  induction d generalizing zs with
  | done a => exact ⟨[], a, zs, rfl, .done a, h⟩
  | readBlock next ih =>
      obtain _ | ⟨block, h⟩ := h
      obtain ⟨xs, a, ys, rfl, first, rest⟩ := ih block h
      exact ⟨_ :: xs, a, ys, rfl, .readBlock block first, rest⟩
  | print line next ih =>
      obtain _ | _ | ⟨printed, h⟩ := h
      obtain ⟨xs, a, ys, rfl, first, rest⟩ := ih printed h
      exact ⟨_ :: xs, a, ys, rfl, .print printed first, rest⟩
  | load name next ih =>
      obtain _ | _ | _ | ⟨loaded, h⟩ := h
      obtain ⟨xs, a, ys, rfl, first, rest⟩ := ih loaded h
      exact ⟨_ :: xs, a, ys, rfl, .load loaded first, rest⟩
  | save name lines next ih =>
      obtain _ | _ | _ | _ | ⟨saved, h⟩ := h
      obtain ⟨xs, a, ys, rfl, first, rest⟩ := ih saved h
      exact ⟨_ :: xs, a, ys, rfl, .save saved first, rest⟩

theorem Goes.of_map {d : Dialogue α} {f : α → β} {xs : List Exchange} {b : β}
    (h : (d.map f).Goes xs b) : ∃ a, d.Goes xs a ∧ b = f a := by
  obtain ⟨ys, a, zs, rfl, first, rest⟩ := h.of_bind
  obtain ⟨⟩ := rest
  exact ⟨a, by simpa using first, rfl⟩

def exchanges : Dialogue α → Surroundings → List Exchange
  | done _, _ => []
  | readBlock next, s =>
      let (block, source) := s.source.readBlock
      .readBlock block :: (next block).exchanges { s with source }
  | print line next, s =>
      let (printed, sink) := s.sink.print line
      .print line printed :: (next printed).exchanges { s with sink }
  | load name next, s => .load name (s.files.load name) :: (next (s.files.load name)).exchanges s
  | save name lines next, s =>
      match s.files.save name lines with
      | .ok (files, count) =>
          .save name lines (.ok count) :: (next (.ok count)).exchanges { s with files }
      | .error e => .save name lines (.error e) :: (next (.error e)).exchanges s

theorem goes_exchanges (d : Dialogue α) (s : Surroundings) :
    d.Goes (d.exchanges s) (d.run s).1 := by
  induction d generalizing s with
  | done a => exact .done a
  | readBlock next ih => exact .readBlock _ (ih _ _)
  | print line next ih => exact .print _ (ih _ _)
  | load name next ih => exact .load _ (ih _ _)
  | save name lines next ih =>
      cases answer : s.files.save name lines with
      | ok saved =>
          simp only [exchanges, run, answer]
          exact .save _ (ih _ _)
      | error e =>
          simp only [exchanges, run, answer]
          exact .save _ (ih _ _)

theorem filed_exchanges (d : Dialogue α) (s : Surroundings) :
    Filed (d.exchanges s) s.files (d.run s).2.files := by
  induction d generalizing s with
  | done a => exact .nothing _
  | readBlock next ih =>
      exact .readBlock (ih s.source.readBlock.1 { s with source := s.source.readBlock.2 })
  | print line next ih =>
      exact .print (ih (s.sink.print line).1 { s with sink := (s.sink.print line).2 })
  | load name next ih =>
      cases answer : s.files.load name with
      | ok loaded =>
          simp only [exchanges, run, answer]
          exact .loaded answer (ih (.ok loaded) s)
      | error error =>
          simp only [exchanges, run, answer]
          exact .unloaded (ih (.error error) s)
  | save name lines next ih =>
      cases answer : s.files.save name lines with
      | ok saved =>
          simp only [exchanges, run, answer]
          exact .saved answer (ih (.ok saved.2) { s with files := saved.1 })
      | error error =>
          simp only [exchanges, run, answer]
          exact .unsaved (ih (.error error) s)

theorem leaves_exchanges (d : Dialogue α) (s : Surroundings) :
    Leaves (d.exchanges s) s.files (d.run s).2.files :=
  (d.filed_exchanges s).leaves

theorem goes_run (d : Dialogue α) (s : Surroundings) :
    ∃ xs, d.Goes xs (d.run s).1 ∧ Leaves xs s.files (d.run s).2.files :=
  ⟨_, d.goes_exchanges s, d.leaves_exchanges s⟩

end Dialogue

end LineEditor
