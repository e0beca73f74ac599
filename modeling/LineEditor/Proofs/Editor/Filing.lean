import LineEditor.Proofs.Editor.History
import LineEditor.Proofs.Editor.Splice
import LineEditor.Proofs.Files

/-! The files that commands leave behind. Only a `w` or a `wq` changes a file: the one it names, or
else that of the document. The name of the document depends on what was loaded and saved before. -/
namespace LineEditor

namespace Filed

variable {xs ys : List Exchange} {tree after : FileTree} {name : Text} {lines : List Text}

theorem eq_of_isPrint (filed : Filed xs tree after) (prints : ∀ x ∈ xs, x.isPrint = true) :
    after = tree :=
  filed.leaves.eq_of_kept fun x member => Exchange.keepsFiles_of_isPrint (prints x member)

theorem load_ok {loaded : Loaded} (filed : Filed (.load name (.ok loaded) :: xs) tree after) :
    tree.load name = .ok loaded := by
  cases filed with
  | loaded found => exact found

theorem save_ok {count : Nat} (filed : Filed (.save name lines (.ok count) :: xs) tree after)
    (prints : ∀ x ∈ xs, x.isPrint = true) :
    count = (bytesOfLines lines).length ∧
      ∃ path, tree.target name = .ok path ∧
        after = tree.put path (.file (bytesOfLines lines)) := by
  cases filed with
  | saved saved rest =>
      rw [FileTree.save_eq] at saved
      cases target : tree.target name with
      | error error =>
          rw [target] at saved
          cases saved
      | ok path =>
          rw [target] at saved
          cases saved
          exact ⟨rfl, path, rfl, rest.eq_of_isPrint prints⟩

end Filed

namespace Editor

variable {e after : Editor} {i : Invocation} {line name : Text} {xs : List Exchange} {reply : Reply}
  {path : FilePath} {files left : FileTree}

/-- The command line is a `w` or a `wq`, for the file it names or else for that of the document. -/
def WritesTo (e : Editor) (line name : Text) : Prop :=
  ∃ r, resolve line e.document.buffer e.document.cursor e.lastPattern = .ok r ∧ r.verb = 'w' ∧
    (r.invocation.word = ['w'] ∨ r.invocation.word = ['w', 'q']) ∧
    r.invocation.filename.or e.document.filename = some name

theorem WritesTo.unique {name' : Text} (writes : e.WritesTo line name)
    (again : e.WritesTo line name') : name = name' := by
  obtain ⟨r, resolution, -, -, named⟩ := writes
  obtain ⟨r', resolution', -, -, named'⟩ := again
  cases resolution.symm.trans resolution'
  exact Option.some.inj (named.symm.trans named')

theorem Ending.keepsFiles_or {verb : Verb} (ending : e.Ending i verb xs reply) :
    (∀ x ∈ xs, x.keepsFiles = true) ∨
      ∃ name count ys, xs = .save name e.document.buffer.lines (.ok count) :: ys ∧
        (∀ y ∈ ys, y.isPrint = true) ∧ verb = .save ∧ (i.word = ['w'] ∨ i.word = ['w', 'q']) ∧
        i.filename.or e.document.filename = some name := by
  cases ending with
  | refused vain =>
      exact .inl fun x member =>
        Exchange.keepsFiles_of_onlyReads (Exchange.onlyReads_of_isVain (vain x member))
  | warned | inserted | deleted | changed | loaded | left =>
      exact .inl (by simp [Exchange.keepsFiles])
  | printed _ _ printing | explained _ printing | substituted _ _ _ _ printing =>
      exact .inl fun x member => Exchange.keepsFiles_of_isPrint (printing.isPrint x member)
  | saved word named =>
      exact .inr ⟨_, _, _, rfl, by simp [Exchange.isPrint], rfl, word.imp (·.1) (·.1), named⟩

theorem Ending.filename {verb : Verb} (ending : e.Ending i verb xs reply) :
    reply.editor.document.filename = e.document.filename ∨
      ∃ name, i.filename = some name ∧ reply.editor.document.filename = some name ∧
        ((∃ guarded loaded, verb = .load guarded ∧ .load name (.ok loaded) ∈ xs) ∨
          e.document.filename = none ∧ verb = .save ∧ ∃ x ∈ xs, x.keepsFiles = false) := by
  cases ending with
  | refused | warned | explained | left | substituted => exact .inl rfl
  | @printed mode all => cases all <;> exact .inl rfl
  | inserted bare work => exact .inl (Document.insert_filename work)
  | deleted bare work => exact .inl (Document.delete_filename work)
  | changed bare out work =>
      exact .inl ((Document.insert_filename work).trans (Document.delete_filename out))
  | loaded word named =>
      exact .inr ⟨_, named, rfl, .inl ⟨_, _, rfl, List.mem_cons_self⟩⟩
  | @saved printed name count outcome word named =>
      cases old : e.document.filename with
      | some own => exact .inl rfl
      | none =>
          rw [old, Option.or_none] at named
          exact .inr ⟨name, named, rfl, .inr ⟨rfl, rfl, _, List.mem_cons_self, rfl⟩⟩

theorem Ending.accepted {outcome : Outcome} (ending : e.Ending i .save xs reply)
    (ok : reply.result = .ok outcome) :
    reply.editor.document.buffer = e.document.buffer ∧ ∃ x ∈ xs, x.keepsFiles = false := by
  cases ending with
  | refused => cases ok
  | warned guarded => simp at guarded
  | saved => exact ⟨rfl, _, List.mem_cons_self, rfl⟩

structure Filing where
  event : Event
  files : FileTree
  left : FileTree

namespace Filing

variable (f : Filing)

/-- The call is a `w` or a `wq`, and its save under the name has succeeded. -/
def Saves (name : Text) : Prop :=
  ∃ line lines count, f.event.task = .command line ∧ f.event.before.WritesTo line name ∧
    .save name lines (.ok count) ∈ f.event.exchanges

def SavesTo (path : FilePath) : Prop := ∃ name, f.Saves name ∧ f.files.target name = .ok path

def saved : FileEntry := .file (bytesOfLines f.event.before.document.buffer.lines)

/-- The call gives the document a name: a session begins with it, a file of that name was loaded, or
a document without a name was saved under it. -/
def Names (name : Text) : Prop :=
  f.event.task = .startupFile name ∨
    ∃ line r, f.event.task = .command line ∧
      resolve line f.event.before.document.buffer f.event.before.document.cursor
        f.event.before.lastPattern = .ok r ∧
      r.invocation.filename = some name ∧
      ((r.verb = 'e' ∨ r.verb = 'E') ∧ (∃ loaded, .load name (.ok loaded) ∈ f.event.exchanges) ∨
        f.event.before.document.filename = none ∧ f.Saves name)

structure IsOrderly (f : Filing) : Prop where
  saves : ∀ path, f.SavesTo path → f.left.lookup path = some f.saved ∧
    ∀ other, other ≠ path → f.left.lookup other = f.files.lookup other
  keeps : (∀ path, ¬ f.SavesTo path) → f.left = f.files
  renames : f.event.after.document.filename = f.event.before.document.filename ∨
    ∃ name, f.Names name ∧ f.event.after.document.filename = some name
  opens : ∀ name, f.event.task = .startupFile name →
    f.event.after.document.filename = some name
  accepted : ∀ line r outcome, f.event.task = .command line →
    resolve line f.event.before.document.buffer f.event.before.document.cursor
      f.event.before.lastPattern = .ok r → r.verb = 'w' → f.event.result = .ok outcome →
    ∃ path, f.SavesTo path ∧
      f.left.lookup path = some (.file (bytesOfLines f.event.after.document.buffer.lines))

end Filing

theorem Step.keepsFiles_or {result : Except EditorError Outcome}
    (step : e.Step (.command line) xs result after) :
    (∀ x ∈ xs, x.keepsFiles = true) ∨
      ∃ name count ys, xs = .save name e.document.buffer.lines (.ok count) :: ys ∧
        (∀ y ∈ ys, y.isPrint = true) ∧ e.WritesTo line name := by
  obtain ⟨ys, zs, reply, rfl, prints, goes, -⟩ := step.of_command
  have after (first : ∀ y ∈ ys, y.keepsFiles = true) : ∀ x ∈ ys ++ zs, x.keepsFiles = true :=
    List.forall_mem_append.mpr ⟨first, fun z member =>
      Exchange.keepsFiles_of_isPrint (prints z member)⟩
  rcases tryExecute_cases goes with ⟨error, -, rfl, -⟩ |
    ⟨r, verb, raw, resolution, known, ending, -⟩
  · exact .inl (after (by simp))
  · rcases ending.keepsFiles_or with kept | ⟨name, count, rest, rfl, others, rfl, word, named⟩
    · exact .inl (after kept)
    · exact .inr ⟨name, count, rest ++ zs, rfl, List.forall_mem_append.mpr ⟨others, prints⟩,
        r, resolution, Verb.letter_of_ofChar? known, word, named⟩

theorem Step.keepsFiles_or_saves {task : Task} {result : Except EditorError Outcome}
    (step : e.Step task xs result after) (filed : Filed xs files left) :
    (∀ x ∈ xs, x.keepsFiles = true) ∨
      ∃ name path, Filing.Saves ⟨⟨e, task, xs, result, after⟩, files, left⟩ name ∧
        files.target name = .ok path ∧
        left = files.put path (.file (bytesOfLines e.document.buffer.lines)) := by
  cases task with
  | command line =>
      rcases step.keepsFiles_or with kept | ⟨name, count, ys, rfl, prints, writes⟩
      · exact .inl kept
      · obtain ⟨-, path, target, same⟩ := filed.save_ok prints
        exact .inr ⟨name, path, ⟨line, _, count, rfl, writes, List.mem_cons_self⟩, target, same⟩
  | startupFile name =>
      cases step with
      | openStartupFile goes =>
          obtain ⟨answer, ys, rfl, prints, -⟩ := openStartupFile_goes goes
          exact .inl (List.forall_mem_cons.mpr ⟨rfl, fun y member =>
            Exchange.keepsFiles_of_isPrint (prints y member)⟩)

theorem Step.exists_saves {task : Task} {result : Except EditorError Outcome} {x : Exchange}
    (step : e.Step task xs result after) (filed : Filed xs files left) (member : x ∈ xs)
    (changed : x.keepsFiles = false) :
    ∃ name path, Filing.Saves ⟨⟨e, task, xs, result, after⟩, files, left⟩ name ∧
      files.target name = .ok path ∧
      left = files.put path (.file (bytesOfLines e.document.buffer.lines)) := by
  refine (step.keepsFiles_or_saves filed).resolve_left fun kept => ?_
  cases (kept x member).symm.trans changed

theorem Step.saves {task : Task} {result : Except EditorError Outcome}
    (step : e.Step task xs result after) (filed : Filed xs files left)
    (saves : Filing.SavesTo ⟨⟨e, task, xs, result, after⟩, files, left⟩ path) :
    files.lookup path ≠ some .directory ∧
      left = files.put path (.file (bytesOfLines e.document.buffer.lines)) := by
  obtain ⟨name, ⟨line, lines, count, rfl, writes, works⟩, target⟩ := saves
  refine ⟨FileTree.target_free target, ?_⟩
  rcases step.keepsFiles_or_saves filed with
    kept | ⟨name', path', ⟨line', -, -, same, writes', -⟩, target', put⟩
  · cases kept _ works
  · cases same
    cases writes.unique writes'
    cases target.symm.trans target'
    exact put

theorem openStartupFile_filename (goes : (e.openStartupFile name).Goes xs after) :
    after.document.filename = some name := by
  obtain ⟨answer, ys, -, -, -, document⟩ := openStartupFile_goes goes
  rw [document]
  cases answer <;> rfl

theorem Step.renames {task : Task} {result : Except EditorError Outcome}
    (step : e.Step task xs result after) (filed : Filed xs files left) :
    after.document.filename = e.document.filename ∨
      ∃ name, Filing.Names ⟨⟨e, task, xs, result, after⟩, files, left⟩ name ∧
        after.document.filename = some name := by
  cases task with
  | command line =>
      obtain ⟨ys, zs, reply, rfl, prints, goes, rfl, document, -⟩ := step.of_command
      rw [document]
      rcases tryExecute_cases goes with ⟨error, -, -, rfl⟩ |
        ⟨r, verb, raw, resolution, known, ending, rfl⟩
      · exact .inl rfl
      · rw [settle_filename]
        rcases ending.filename with same | ⟨name, named, changed, how⟩
        · exact .inl same
        · refine .inr ⟨name, .inr ⟨line, r, rfl, resolution, named, ?_⟩, changed⟩
          rcases how with ⟨guarded, loaded, rfl, loads⟩ | ⟨unnamed, rfl, x, member, works⟩
          · exact .inl ⟨verb_of_load known, loaded, List.mem_append_left _ loads⟩
          · obtain ⟨written, -, saves, -⟩ :=
              step.exists_saves filed (List.mem_append_left _ member) works
            obtain ⟨line', -, -, same, ⟨r', resolution', -, -, target'⟩, -⟩ := id saves
            cases same
            cases resolution.symm.trans resolution'
            have given : (some name).or none = some written := by
              rw [← named, ← show e.document.filename = none from unnamed]
              exact target'
            cases given
            exact .inr ⟨unnamed, saves⟩
  | startupFile name =>
      cases step with
      | openStartupFile goes =>
          exact .inr ⟨name, .inl rfl, openStartupFile_filename goes⟩

theorem Step.orderly {task : Task} {result : Except EditorError Outcome}
    (step : e.Step task xs result after) (filed : Filed xs files left) :
    Filing.IsOrderly ⟨⟨e, task, xs, result, after⟩, files, left⟩ where
  saves path saves := by
    obtain ⟨free, put⟩ := step.saves filed saves
    dsimp only
    rw [put]
    exact ⟨FileTree.lookup_put_self free, fun other => FileTree.lookup_put_other free⟩
  keeps none := by
    rcases step.keepsFiles_or_saves filed with kept | ⟨name, path, saves, target, -⟩
    · exact filed.leaves.eq_of_kept kept
    · exact absurd ⟨name, saves, target⟩ (none path)
  renames := step.renames filed
  opens := by
    rintro name rfl
    cases step with
    | openStartupFile goes => exact openStartupFile_filename goes
  accepted := by
    rintro line r outcome rfl resolution letter ok
    obtain ⟨ys, zs, reply, rfl, prints, goes, rfl, document, -⟩ := id step.of_command
    rcases tryExecute_cases goes with ⟨error, -, -, rfl⟩ |
      ⟨r', verb, raw, resolution', known, ending, rfl⟩
    · cases ok
    · cases resolution.symm.trans resolution'
      rw [letter] at known
      cases known
      obtain ⟨same, x, member, works⟩ := ending.accepted ((settle_result e raw).symm.trans ok)
      obtain ⟨name, path, saves, target, put⟩ :=
        step.exists_saves filed (List.mem_append_left _ member) works
      refine ⟨path, ⟨name, saves, target⟩, ?_⟩
      dsimp only
      rw [put, document, settle_buffer, same]
      exact FileTree.lookup_put_self (FileTree.target_free target)

/-- Calls that lead from one editor and its files to another, the latest in front. -/
inductive FileHistory (start : Editor) (tree : FileTree) :
    List Filing → Editor → FileTree → Prop where
  | start : FileHistory start tree [] start tree
  | step {filings : List Filing} {e after : Editor} {files left : FileTree} {task : Task}
      {xs : List Exchange} {result : Except EditorError Outcome}
      (history : FileHistory start tree filings e files) (step : e.Step task xs result after)
      (filed : Filed xs files left) :
      FileHistory start tree (⟨⟨e, task, xs, result, after⟩, files, left⟩ :: filings) after left

def LastSaved (filings : List Filing) (path : FilePath) (entry : Option FileEntry) : Prop :=
  ∃ later last earlier, filings = later ++ last :: earlier ∧
    (∀ f ∈ later, ¬ f.SavesTo path) ∧ last.SavesTo path ∧ entry = some last.saved

theorem LastSaved.step {f : Filing} {filings : List Filing} {entry : Option FileEntry}
    (last : LastSaved filings path entry) (other : ¬ f.SavesTo path) :
    LastSaved (f :: filings) path entry := by
  obtain ⟨later, last, earlier, rfl, none, saves, same⟩ := last
  exact ⟨f :: later, last, earlier, rfl, List.forall_mem_cons.mpr ⟨other, none⟩, saves, same⟩

theorem Filing.IsOrderly.lookup {f : Filing} (orderly : f.IsOrderly) (other : ¬ f.SavesTo path) :
    f.left.lookup path = f.files.lookup path := by
  by_cases any : ∃ elsewhere, f.SavesTo elsewhere
  · obtain ⟨elsewhere, saves⟩ := any
    refine (orderly.saves elsewhere saves).2 path ?_
    rintro rfl
    exact other saves
  · rw [orderly.keeps fun elsewhere saves => any ⟨elsewhere, saves⟩]

theorem FileHistory.orderly {start : Editor} {tree : FileTree} {filings : List Filing}
    (history : FileHistory start tree filings e files) : ∀ f ∈ filings, f.IsOrderly := by
  induction history with
  | start => simp
  | step _ step filed ih => exact List.forall_mem_cons.mpr ⟨step.orderly filed, ih⟩

theorem FileHistory.lookup {start : Editor} {tree : FileTree} {filings : List Filing}
    (history : FileHistory start tree filings e files) (path : FilePath) :
    (files.lookup path = tree.lookup path ∧ ∀ f ∈ filings, ¬ f.SavesTo path) ∨
      LastSaved filings path (files.lookup path) := by
  induction history with
  | start => exact .inl ⟨rfl, by simp⟩
  | @step filings e after files left task xs result history step filed ih =>
      have orderly := step.orderly filed
      let f : Filing := ⟨⟨e, task, xs, result, after⟩, files, left⟩
      by_cases saves : f.SavesTo path
      · exact .inr ⟨[], f, filings, rfl, by simp, saves, (orderly.saves path saves).1⟩
      · have same : left.lookup path = files.lookup path := orderly.lookup saves
        rw [same]
        rcases ih with ⟨kept, none⟩ | last
        · exact .inl ⟨kept, List.forall_mem_cons.mpr ⟨saves, none⟩⟩
        · exact .inr (last.step saves)

/-- Behind any calls a file is what it was at first, if none of them was a save to it, or else the
document as it was in front of the last of these saves. Every call keeps to the rules for files. -/
theorem fileHistory_files {start : Editor} {tree : FileTree} {filings : List Filing}
    (history : FileHistory start tree filings e files) :
    (∀ path, (files.lookup path = tree.lookup path ∧ ∀ f ∈ filings, ¬ f.SavesTo path) ∨
      LastSaved filings path (files.lookup path)) ∧
      ∀ f ∈ filings, f.IsOrderly :=
  ⟨history.lookup, history.orderly⟩

def Filing.ofRun (e : Editor) (line : Text) (s : Surroundings) : Filing :=
  ⟨.ofRun e line s, s.files, ((e.tryExecute line).run s).2.files⟩

theorem FileHistory.run {start : Editor} {tree : FileTree} {filings : List Filing}
    {s : Surroundings} (history : FileHistory start tree filings e s.files) (line : Text) :
    FileHistory start tree (.ofRun e line s :: filings) (Filing.ofRun e line s).event.after
      (Filing.ofRun e line s).left :=
  history.step (.tryExecute ((e.tryExecute line).goes_exchanges s))
    ((e.tryExecute line).filed_exchanges s)

/-- A document is written to two files, to the first of them at the second attempt. Then a line is
deleted, and the document is written to the first file again, which has given it its name. A third
file stays. -/
theorem fileHistory_files_written :
    let tree : FileTree := ⟨[], [([['k']], .file [120])]⟩
    let s (files : FileTree) : Surroundings := ⟨⟨[], false⟩, ⟨[], none⟩, files⟩
    let start : Editor := ofDocument (.ofBuffer ⟨[['a'], ['b']]⟩)
    let refused : Filing :=
      ⟨⟨start, .command ['w', ' ', 'f'], [.save ['f'] [['a'], ['b']] (.error .refused)],
        .error .cannotWrite, start⟩, tree, tree⟩
    let first : Filing := .ofRun start ['w', ' ', 'f'] (s tree)
    let second : Filing := .ofRun first.event.after ['w', ' ', 'g'] (s first.left)
    let third : Filing := .ofRun second.event.after ['d'] (s second.left)
    let last : Filing := .ofRun third.event.after ['w', 'q'] (s third.left)
    let filings : List Filing := [last, third, second, first, refused]
    FileHistory start tree filings last.event.after last.left ∧
      (last.left.lookup [['f']] = some (.file [97, 10]) ∧
        last.left.lookup [['g']] = some (.file [97, 10, 98, 10]) ∧
        last.left.lookup [['k']] = some (.file [120])) ∧
      LastSaved filings [['f']] (last.left.lookup [['f']]) ∧
      LastSaved filings [['g']] (last.left.lookup [['g']]) ∧ ∀ f ∈ filings, f.IsOrderly := by
  intro tree s start refused first second third last filings
  have fails : (start.tryExecute ['w', ' ', 'f']).Goes
      [.save ['f'] [['a'], ['b']] (.error .refused)] ⟨start, .error .cannotWrite⟩ :=
    .save (.error .refused) (.done _)
  have tried : FileHistory start tree [refused] start tree :=
    FileHistory.start.step (.tryExecute fails) (.unsaved (.nothing _))
  have history : FileHistory start tree filings last.event.after last.left :=
    (((tried.run (s := s tree) _).run (s := s first.left) _).run
      (s := s second.left) _).run (s := s third.left) _
  obtain ⟨found, orderly⟩ := fileHistory_files history
  have here : last.left.lookup [['f']] = some (.file [97, 10]) := by decide +kernel
  have there : last.left.lookup [['g']] = some (.file [97, 10, 98, 10]) := by decide +kernel
  refine ⟨history, ⟨here, there, by decide +kernel⟩, ?_, ?_, orderly⟩
  · exact (found [['f']]).resolve_left fun kept => by cases here.symm.trans kept.1
  · exact (found [['g']]).resolve_left fun kept => by cases there.symm.trans kept.1

end Editor

end LineEditor
