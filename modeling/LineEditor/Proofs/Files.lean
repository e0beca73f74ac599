import LineEditor.Proofs.Failure
import LineEditor.Proofs.Text.Utf8

/-! A file that was written is found again under its name. Putting it in its place leaves every
directory on the way there as it was. -/
namespace LineEditor

namespace FileName

theorem components_ne_nil (name : Text) : components name ≠ [] := by
  unfold components
  split
  · simp
  · split
    · simp
    · split <;> simp

theorem getLast?_components {name : Text} (nonempty : name ≠ [])
    (ending : endsInSlash name = false) : (components name).getLast? ≠ some [] := by
  induction name with
  | nil => exact absurd rfl nonempty
  | cons c t ih =>
      cases t with
      | nil =>
          have slash : c ≠ '/' := by simpa [endsInSlash] using ending
          simp [components, slash]
      | cons d t =>
          have behind := ih (by simp) (by simpa [endsInSlash] using ending)
          rw [components]
          split
          · rwa [List.getLast?_cons_of_ne_nil (components_ne_nil _)]
          · split
            · simp
            · next first more pieces =>
              rw [pieces] at behind
              cases more with
              | nil => simp
              | cons second more => simpa using behind

theorem withoutFinalSlashes_eq {name : Text} (nonempty : name ≠ [])
    (ending : endsInSlash name = false) : withoutFinalSlashes name = components name := by
  have last := getLast?_components nonempty ending
  rw [List.getLast?_eq_head?_reverse] at last
  unfold withoutFinalSlashes
  cases pieces : (components name).reverse with
  | nil => exact (List.reverse_eq_nil_iff.mp pieces).symm
  | cons piece more =>
      rw [pieces] at last
      have filled : piece.isEmpty = false := by simpa using last
      rw [List.dropWhile_cons_of_neg (by simp [filled]), ← pieces, List.reverse_reverse]

end FileName

namespace FileTree

variable {tree : FileTree} {path : FilePath} {bytes : Text.Bytes}

theorem walk_append (tree : FileTree) (path : FilePath) (xs ys : List Text) :
    tree.walk path (xs ++ ys) = tree.walk path xs >>= (tree.walk · ys) := by
  induction xs generalizing path with
  | nil => rfl
  | cons component xs ih =>
      simp only [List.cons_append, walk]
      split
      · rw [bind_assoc]
        exact bind_congr fun next => ih next
      · rfl
      · rfl

theorem walkToDirectory_ok {components : List Text} {directory : FilePath}
    (h : tree.walkToDirectory path components = .ok directory) :
    tree.walk path components = .ok directory ∧ tree.lookup directory = some .directory := by
  unfold walkToDirectory at h
  rw [walk_append] at h
  obtain ⟨last, walked, h⟩ := of_bind_ok h
  unfold walk at h
  split at h
  · next found =>
    cases h
    exact ⟨walked, found⟩
  · cases h
  · cases h

theorem isPrefixOf_home (h : tree.lookup path ≠ some .directory) :
    path.isPrefixOf tree.home = false := by
  cases inside : path.isPrefixOf tree.home with
  | false => rfl
  | true => simp [lookup, inside] at h

section

variable (free : tree.lookup path ≠ some .directory)

include free

theorem lookup_put_self : (tree.put path (.file bytes)).lookup path = some (.file bytes) := by
  rw [lookup_put _ _ _ _ (isPrefixOf_home free), if_pos rfl]

theorem lookup_put_other {other : FilePath} (different : other ≠ path) :
    (tree.put path (.file bytes)).lookup other = tree.lookup other := by
  rw [lookup_put _ _ _ _ (isPrefixOf_home free), if_neg different]

theorem lookup_put_directory {other : FilePath} (h : tree.lookup other = some .directory) :
    (tree.put path (.file bytes)).lookup other = some .directory := by
  have different : other ≠ path := by
    rintro rfl
    exact free h
  rw [lookup_put_other free different, h]

theorem isSome_lookup_put {other : FilePath} (h : (tree.lookup other).isSome = true) :
    ((tree.put path (.file bytes)).lookup other).isSome = true := by
  rw [lookup_put _ _ _ _ (isPrefixOf_home free)]
  split
  · rfl
  · exact h

theorem enter_put {directory next : FilePath} {component : Text}
    (h : tree.enter directory component = .ok next) :
    (tree.put path (.file bytes)).enter directory component = .ok next := by
  unfold enter at h ⊢
  split at h
  · next idle => rwa [if_pos idle]
  · next idle =>
    rw [if_neg idle]
    split at h
    · next up => rwa [if_pos up]
    · next up =>
      rw [if_neg up]
      split at h
      · cases h
      · next long =>
        rw [if_neg long]
        dsimp only at h ⊢
        split at h
        · next found => rwa [if_pos (isSome_lookup_put free found)]
        · cases h

theorem walk_put {start directory : FilePath} {components : List Text}
    (walked : tree.walk start components = .ok directory) :
    (tree.put path (.file bytes)).walk start components = .ok directory := by
  induction components generalizing start with
  | nil => exact walked
  | cons component more ih =>
      unfold walk at walked
      split at walked
      · next found =>
        obtain ⟨next, entered, walked⟩ := of_bind_ok walked
        simp only [walk, lookup_put_directory free found, enter_put free entered, ok_bind,
          ih walked]
      · cases walked
      · cases walked

end

/-- A name under which a file can be put: all its pieces but the last lead to a directory, and the
last is one that a file can have in it. -/
structure IsTarget (tree : FileTree) (name : Text) (directory : FilePath) (last : Text) : Prop where
  nonempty : name ≠ []
  usable : FileName.isUnusable name = false
  pieces : (FileName.components name).getLast? = some last
  walked : tree.walk (tree.origin name) (FileName.components name).dropLast = .ok directory
  found : tree.lookup directory = some .directory
  idle : FileName.isIdle last = false
  up : last ≠ ['.', '.']
  long : FileName.isLongComponent last = false
  free : tree.lookup (directory ++ [last]) ≠ some .directory

theorem target_ok {name : Text} (h : tree.target name = .ok path) :
    ∃ directory last, tree.IsTarget name directory last ∧ path = directory ++ [last] := by
  unfold target at h
  split at h
  · cases h
  · obtain ⟨_, -, h⟩ := of_bind_ok h
    split at h
    · cases h
    · next usable =>
      split at h
      · cases h
      · next filled =>
        obtain ⟨directory, reached, h⟩ := of_bind_ok h
        dsimp only at h
        split at h
        · cases h
        · next last pieces =>
          split at h
          · cases h
          · next allowed =>
            cases h
            simp only [Bool.or_eq_true, decide_eq_true_eq, not_or, Bool.not_eq_true] at allowed
            obtain ⟨⟨⟨⟨idle, up⟩, long⟩, slash⟩, free⟩ := allowed
            have nonempty : name ≠ [] := by simpa using filled
            rw [FileName.withoutFinalSlashes_eq nonempty slash] at reached pieces
            obtain ⟨walked, found⟩ := walkToDirectory_ok reached
            have usable : FileName.isUnusable name = false := by simpa using usable
            exact ⟨directory, last, ⟨nonempty, usable, pieces, walked, found, idle, up, long, free⟩,
              rfl⟩

theorem target_free {name : Text} (h : tree.target name = .ok path) :
    tree.lookup path ≠ some .directory := by
  obtain ⟨directory, last, target, rfl⟩ := target_ok h
  exact target.free

theorem walk_last {directory : FilePath} {last : Text} {name : Text}
    (target : tree.IsTarget name directory last) :
    (tree.put (directory ++ [last]) (.file bytes)).walk directory [last] =
      .ok (directory ++ [last]) := by
  have there : (tree.put (directory ++ [last]) (.file bytes)).lookup (directory ++ [last]) =
      some (.file bytes) := lookup_put_self target.free
  simp [walk, enter, lookup_put_directory target.free target.found, target.idle, target.up,
    target.long, there, ok_bind]

theorem read_write {name : Text} {written : FileTree} (h : tree.write name bytes = .ok written) :
    written.read name = .ok bytes := by
  obtain ⟨path, targeted, h⟩ := of_bind_ok h
  cases h
  obtain ⟨directory, last, target, rfl⟩ := target_ok targeted
  have whole : (FileName.components name).dropLast ++ [last] = FileName.components name := by
    obtain ⟨parents, split⟩ := List.getLast?_eq_some_iff.mp target.pieces
    rw [split, List.dropLast_concat]
  have way : (tree.put (directory ++ [last]) (.file bytes)).walk (tree.origin name)
      (FileName.components name) = .ok (directory ++ [last]) := by
    rw [← whole, walk_append, walk_put target.free target.walked, ok_bind, walk_last target]
  have same : (tree.put (directory ++ [last]) (.file bytes)).origin name = tree.origin name := rfl
  have nonempty : name.isEmpty = false := by simpa using target.nonempty
  unfold read
  rw [if_neg (by simp [target.usable]), if_neg (by simp [nonempty]), same, way, ok_bind,
    lookup_put_self target.free]

theorem save_eq_map (tree : FileTree) (name : Text) (lines : List Text) :
    tree.save name lines =
      (tree.write name (bytesOfLines lines)).map (·, (bytesOfLines lines).length) := by
  rw [save, writeLines_eq, Nat.zero_add, ← length_bytesOfLines]
  dsimp only
  cases tree.write name (bytesOfLines lines) <;> rfl

theorem save_eq (tree : FileTree) (name : Text) (lines : List Text) :
    tree.save name lines = (tree.target name).map fun path =>
      (tree.put path (.file (bytesOfLines lines)), (bytesOfLines lines).length) := by
  rw [save_eq_map, write]
  cases tree.target name <;> rfl

theorem load_save {name : Text} {lines : List Text} {saved : FileTree} {count : Nat}
    (h : tree.save name lines = .ok (saved, count)) :
    saved.load name = .ok (.ofBytes (bytesOfLines lines)) ∧ count = (bytesOfLines lines).length := by
  rw [save_eq_map] at h
  obtain ⟨written, written_ok, h⟩ := of_bind_ok h
  cases h
  unfold load
  rw [read_write written_ok]
  exact ⟨rfl, rfl⟩

end FileTree

end LineEditor
