import SourceAttest.Proofs.Repository.Removal

/-!
# When writing succeeds

A file can be written unless a limit of the file system, a file on the way or a directory in its
place is against it. `Store.Admits` says this of a path and a tree. The main results are
`Store.admits_of_write`, by which writing that succeeds was admitted, and `Store.write_of_admits`, by
which writing that is admitted succeeds.
-/
namespace SourceAttest

namespace Path

variable {here : Place} {path : Path}

private theorem size_intercalate_le {names more : List String} (shorter : names <+: more) :
    ("/".intercalate names).utf8ByteSize ≤ ("/".intercalate more).utf8ByteSize := by
  obtain ⟨rest, rfl⟩ := shorter
  induction names with
  | nil => simp
  | cons name tail ih =>
    cases tail with
    | nil =>
      cases rest with
      | nil => simp
      | cons next others =>
        rw [List.singleton_append, String.intercalate_cons_of_ne_nil (List.cons_ne_nil _ _)]
        simp only [String.intercalate_singleton, String.utf8ByteSize_append]
        omega
    | cons next others =>
      have joined (more : List String) : "/".intercalate (name :: next :: more)
          = name ++ "/" ++ "/".intercalate (next :: more) :=
        String.intercalate_cons_of_ne_nil (List.cons_ne_nil _ _)
      rw [List.cons_append, List.cons_append, joined, joined]
      rw [List.cons_append] at ih
      simp only [String.utf8ByteSize_append]
      omega

theorem size_text_le {names : List String} (shorter : names <+: path.names)
    (short : path.text.utf8ByteSize ≤ Tree.maxPathBytes) :
    (Path.text ⟨path.anchor, names⟩).utf8ByteSize ≤ Tree.maxPathBytes := by
  by_cases empty : path.anchor = .here ∧ names = []
  · rw [text, if_pos empty]
    decide
  · have filled : ¬(path.anchor = .here ∧ path.names = []) := fun both =>
      empty ⟨both.1, List.prefix_nil.mp (both.2 ▸ shorter)⟩
    have longer := size_intercalate_le shorter
    rw [text, if_neg filled] at short
    rw [text, if_neg empty]
    simp only [String.utf8ByteSize_append] at short ⊢
    omega

/-- The first names of a path fit where the path does. -/
theorem Fits.shorter (fits : path.Fits here) {names : List String} (shorter : names <+: path.names) :
    Path.Fits here ⟨path.anchor, names⟩ := by
  refine ⟨?_, size_text_le shorter fits.short, fun name member => ?_⟩
  · have noNul := fits.noNul
    rw [hasNul_eq, List.any_eq_false] at noNul ⊢
    exact fun name member => noNul name (shorter.subset member)
  · exact fits.names name ((Tree.namesFrom_shorter here path shorter).subset member)

theorem namesFrom_parent (here : Place) (named : path.names ≠ []) :
    Tree.namesFrom here path.parent = (Tree.namesFrom here path).dropLast := by
  unfold Tree.namesFrom parent
  dsimp only
  split_ifs
  · rw [List.dropLast_append_of_ne_nil named]
  · rfl

end Path

namespace Tree

variable {tree made : Tree} {here : Place} {path : Path}

/-! ### New entries -/

/-- The place of a new entry is the last name of a path that fits. -/
theorem names_of_entryPlace {place : Place} (returned : tree.entryPlace here path = .ok (some place)) :
    path.text.utf8ByteSize ≤ maxPathBytes ∧ ∃ above name, namesFrom here path = above ++ [name] ∧
      name ≠ ".." ∧ isTooLong name = false := by
  simp only [entryPlace] at returned
  split_ifs at returned with long
  split at returned
  · cases returned
  next name last =>
    split at returned
    · cases returned
    · split_ifs at returned with isDirectory up tooLong
      · cases returned
      · obtain ⟨above, names⟩ := List.getLast?_eq_some_iff.mp last
        exact ⟨by omega, above, name, names, up, by simpa using tooLong⟩

/-- Below directories, a path ends in a directory by itself or names the place where it leads. -/
theorem entryPlace_of_above (closed : tree.IsClosed) (fits : path.Fits here)
    (above : tree.AllDirectories [] (namesFrom here path).dropLast) :
    tree.entryPlace here path = .ok none ∧ tree.node? (path.resolved here) = some .directory ∨
      tree.entryPlace here path = .ok (some (path.resolved here)) := by
  have short : ∀ name ∈ (namesFrom here path).dropLast, isTooLong name = false := fun name member =>
    fits.names name (List.dropLast_subset _ member)
  have inside := above _ (List.prefix_refl _)
  simp only [entryPlace, if_neg (Nat.not_lt.mpr fits.short), walk_of_allDirectories above short]
  cases last : (namesFrom here path).getLast? with
  | none =>
    rw [List.getLast?_eq_none_iff] at last
    exact .inl ⟨rfl, by rw [Path.resolved, last]; rfl⟩
  | some name =>
    obtain ⟨names, parts⟩ := List.getLast?_eq_some_iff.mp last
    have leads : path.resolved here = (Place.follow [] names).step name := by
      rw [Path.resolved, parts, Place.follow_append]
      rfl
    rw [parts, List.dropLast_concat] at inside
    rw [leads, parts, List.dropLast_concat, Place.step]
    dsimp only
    rw [if_pos inside]
    split_ifs with up long
    · exact .inl ⟨rfl, closed.directory_dropLast inside⟩
    · rw [fits.names name (List.mem_of_getLast? last)] at long
      cases long
    · exact .inr rfl

/-! ### Making directories -/

/-- A directory that is there or has been made lies below directories. -/
theorem of_ensureDirectory (returned : tree.ensureDirectory here path = (.ok (), made)) :
    tree.AllDirectories [] (namesFrom here path).dropLast ∧
      made.node? (path.resolved here) = some .directory := by
  rw [ensureDirectory] at returned
  split at returned
  next after makes =>
    cases returned
    rw [makeDirectory] at makes
    split at makes
    · cases makes
    · cases makes
    next place entry =>
      obtain ⟨parent, name, rfl, leads, walked, inside⟩ := entryPlace_eq_some entry
      split at makes
      · cases makes
      · cases makes
        rw [← leads, node?_put tree (by simp), if_pos rfl]
        exact ⟨allDirectories_of_walk walked inside, rfl⟩
  · split_ifs at returned with there
    · cases returned
      have found := there.2
      rw [isDirectory] at found
      split at found
      next place located =>
        obtain rfl := locate_eq_resolved located
        have inside := of_decide_eq_true found
        exact ⟨(allDirectories_of_walk (walk_of_locate located) inside).shorter
          (List.dropLast_prefix _), inside⟩
      · cases found
    · cases returned

theorem ensureDirectory_of_above (closed : tree.IsClosed) (fits : path.Fits here)
    (above : tree.AllDirectories [] (namesFrom here path).dropLast)
    (free : tree.IsOpen [] (namesFrom here path)) :
    ∃ made, tree.ensureDirectory here path = (.ok (), made) ∧
      made.AllDirectories [] (namesFrom here path) := by
  cases held : tree.node? (path.resolved here) with
  | none =>
    -- The path names a new entry, and the directory is made.
    rcases entryPlace_of_above closed fits above with ⟨_, isDirectory⟩ | entry
    · rw [held] at isDirectory
      cases isDirectory
    have below : path.resolved here ≠ [] := by
      intro top
      rw [top] at held
      cases held
    have makes : tree.makeDirectory here path = .ok (tree.put (path.resolved here) .directory) := by
      rw [makeDirectory, entry]
      dsimp only
      rw [held]
    refine ⟨_, by rw [ensureDirectory, makes], fun passed onTheWay => ?_⟩
    rw [node?_put tree below]
    split_ifs with last
    · rfl
    · rcases Place.last_or_onTheWay onTheWay with rfl | early
      · exact absurd rfl last
      · exact above passed early
  | some node =>
    cases node with
    | file content => exact absurd held (free _ (List.prefix_refl _) content)
    | directory =>
      have all : tree.AllDirectories [] (namesFrom here path) := by
        intro passed onTheWay
        rcases Place.last_or_onTheWay onTheWay with rfl | early
        · exact held
        · exact above passed early
      have makes : tree.makeDirectory here path = .error .exists := by
        rw [makeDirectory]
        rcases entryPlace_of_above closed fits above with ⟨entry, _⟩ | entry
        · rw [entry]
        · rw [entry]
          dsimp only
          rw [held]
      have found : tree.isDirectory here path = true := by
        rw [isDirectory, locate_of_short fits.short, walk_of_allDirectories all fits.names]
        exact decide_eq_true held
      refine ⟨tree, ?_, all⟩
      rw [ensureDirectory, makes]
      exact if_pos ⟨by decide, found⟩

/-- Making a directory finds nothing exactly where the way to it finds nothing. -/
theorem makeDirectory_of_walk_notFound (fits : path.Fits here)
    (lost : tree.walk [] (namesFrom here path).dropLast = .error .notFound) :
    tree.makeDirectory here path = .error .notFound := by
  rw [makeDirectory, entryPlace, if_neg (Nat.not_lt.mpr fits.short)]
  dsimp only
  cases last : (namesFrom here path).getLast? with
  | none =>
    rw [List.getLast?_eq_none_iff] at last
    rw [last] at lost
    cases lost
  | some name => rw [lost]

/-- No file stands on the way to the first names of a path if none stands on the way to all of them. -/
theorem IsOpen.first (free : tree.IsOpen [] (namesFrom here path)) {names : List String}
    (shorter : names <+: path.names) : tree.IsOpen [] (namesFrom here ⟨path.anchor, names⟩) :=
  free.shorter (namesFrom_shorter here path shorter)

theorem IsOpen.growsAlong {names less : List String} (free : tree.IsOpen [] names)
    (grows : GrowsAlong less tree made) : made.IsOpen [] names := by
  intro passed onTheWay content file
  rcases grows.each (Place.follow [] passed) with same | ⟨_, isDirectory, _⟩
  · exact free passed onTheWay content (same ▸ file)
  · rw [isDirectory] at file
    cases file

/-- Where no file is in the way, the directory of the first names of a path can be made, with all
that are missing above it. -/
theorem ensureFirst_of_isOpen (closed : tree.IsClosed) (fits : path.Fits here)
    (grounded : path.anchor = .here → tree.AllDirectories [] here.dropLast)
    (free : tree.IsOpen [] (namesFrom here path)) {count : Nat} (within : count ≤ path.names.length) :
    ∃ made, tree.ensureFirst here path count = (.ok (), made) ∧
      made.AllDirectories [] (namesFrom here ⟨path.anchor, path.names.take count⟩) := by
  -- The induction is on how many names are tried, as the directories are made from the top down.
  induction count with
  | zero =>
    refine ensureDirectory_of_above closed (fits.shorter List.nil_prefix) ?_ (free.first List.nil_prefix)
    unfold namesFrom
    dsimp only
    split_ifs with relative
    · rw [List.append_nil]
      exact grounded relative
    · intro passed onTheWay
      rw [List.prefix_nil.mp onTheWay]
      rfl
  | succ count ih =>
    have shorter : path.names.take (count + 1) <+: path.names := List.take_prefix _ _
    have fits' := fits.shorter shorter
    have free' := free.first shorter
    -- What lies above the directory are the first names without the last one.
    have above : (namesFrom here ⟨path.anchor, path.names.take (count + 1)⟩).dropLast
        = namesFrom here ⟨path.anchor, path.names.take count⟩ := by
      rw [List.take_succ_eq_append_getElem within]
      unfold namesFrom
      dsimp only
      split_ifs
      · rw [← List.append_assoc, List.dropLast_concat]
      · rw [List.dropLast_concat]
    rw [ensureFirst]
    split
    · obtain ⟨made, ensured, all⟩ := ih (by omega)
      have grows := growsAlong_of_ensureFirst tree here path count
      rw [ensured] at grows ⊢
      exact ensureDirectory_of_above (grows.closed closed) fits' (above ▸ all) (free'.growsAlong grows)
    next found =>
      -- The way is not lost, so it goes through directories.
      have walked := walk_of_isOpen (free'.shorter (List.dropLast_prefix _)) fun name member =>
        fits'.names name (List.dropLast_subset _ member)
      rcases walked with reached | lost
      · exact ensureDirectory_of_above closed fits'
          (closed.allDirectories_of_isOpen rfl (free'.shorter (List.dropLast_prefix _)) reached) free'
      · exact (found (makeDirectory_of_walk_notFound fits' lost)).elim

/-- The way to a relative path starts with the way to the working directory. -/
theorem dropLast_here_shorter (here : Place) (path : Path) (relative : path.anchor = .here) :
    here.dropLast <+: (namesFrom here path).dropLast := by
  rw [namesFrom, if_pos relative]
  rcases path.names.eq_nil_or_concat' with none | ⟨earlier, last, names⟩
  · rw [none, List.append_nil]
  · rw [names, ← List.append_assoc, List.dropLast_concat]
    exact (List.dropLast_prefix _).trans (List.prefix_append _ _)

theorem grounded_of_ensureFirst (relative : path.anchor = .here) {count : Nat}
    (returned : tree.ensureFirst here path count = (.ok (), made)) :
    tree.AllDirectories [] here.dropLast := by
  -- Whatever was tried, the way to it starts with the way to the working directory.
  have above {names : List String} {after : Tree}
      (ensured : tree.ensureDirectory here ⟨path.anchor, names⟩ = (.ok (), after)) :
      tree.AllDirectories [] here.dropLast :=
    (of_ensureDirectory ensured).1.shorter
      (dropLast_here_shorter here ⟨path.anchor, names⟩ relative)
  induction count generalizing made with
  | zero => exact above returned
  | succ count ih =>
    rw [ensureFirst] at returned
    split at returned
    · split at returned
      next ensured => exact ih ensured
      next failed => exact absurd returned (failed made)
    · exact above returned

/-- Below its own directory, a path that leads to no directory ends with a name. -/
theorem named_of_entryPlace {place : Place}
    (ensured : tree.ensureDirectories here path.parent = (.ok (), made))
    (entry : made.entryPlace here path = .ok (some place))
    (noDirectory : made.node? place ≠ some .directory) :
    ∃ above name, path.names = above ++ [name] ∧ name ≠ ".." := by
  obtain ⟨-, above, name, parts, down, -⟩ := names_of_entryPlace entry
  obtain ⟨_, _, -, rfl, -⟩ := entryPlace_eq_some entry
  rcases path.names.eq_nil_or_concat' with none | ⟨earlier, last, names⟩
  · -- Without a name, the path would be the directory that has just been made.
    have same : path.parent = path := by
      cases path
      simp_all [Path.parent]
    rw [same, ensureDirectories, none] at ensured
    have leads : path.resolved here = Path.resolved here ⟨path.anchor, []⟩ := by
      rw [Path.resolved, Path.resolved, namesFrom, namesFrom, none]
    rw [leads] at noDirectory
    exact absurd (of_ensureDirectory ensured).2 noDirectory
  · refine ⟨earlier, last, names, ?_⟩
    -- The last name of the path is the last one from the top.
    have ends : (namesFrom here path).getLast? = some last := by
      rw [namesFrom, names]
      split_ifs
      · rw [← List.append_assoc, List.getLast?_concat]
      · rw [List.getLast?_concat]
    rw [parts, List.getLast?_concat] at ends
    cases ends
    exact down

end Tree

namespace Store

open SourceAttest.Tree

variable {store : Store} {path result : Path} {artifact : Artifact} {tree before after : Tree}

/-! ### Writing files -/

/-- Nothing about a path and a tree is against writing a file. -/
structure Admits (store : Store) (path : Path) (tree : Tree) : Prop where
  fits : path.Fits store.here
  /-- The path ends with a name, and does not lead through its own end. -/
  named : ∃ above name, path.names = above ++ [name] ∧ name ≠ ".."
  aside : ∀ passed, passed <+: (namesFrom store.here path).dropLast →
    Place.follow [] passed ≠ path.resolved store.here
  /-- The directory above the working directory is not made. -/
  grounded : path.anchor = .here → tree.AllDirectories [] store.here.dropLast
  free : tree.IsOpen [] (namesFrom store.here path).dropLast
  noDirectory : tree.node? (path.resolved store.here) ≠ some .directory

theorem refusal?_of_bytes? {content : List UInt8} (readable : artifact.bytes? = .ok content) :
    artifact.refusal? = none := by
  cases artifact with
  | bytes data => rfl
  | value value =>
    cases value with
    | string text => rfl
    | _ => cases readable

/-- Writing that is admitted succeeds. -/
theorem write_of_admits (closed : tree.IsClosed) (admits : store.Admits path tree)
    {content : List UInt8} (readable : artifact.bytes? = .ok content) :
    ∃ after, store.write path artifact tree = (.ok path, after) := by
  obtain ⟨above, name, names, down⟩ := admits.named
  have parent : namesFrom store.here path.parent = (namesFrom store.here path).dropLast :=
    Path.namesFrom_parent store.here (by simp [names])
  have fits : path.parent.Fits store.here := admits.fits.shorter (List.dropLast_prefix _)
  obtain ⟨made, ensured, all⟩ := ensureFirst_of_isOpen closed fits admits.grounded
    (parent ▸ admits.free) (Nat.le_refl _)
  have grows := growsAlong_of_ensureFirst tree store.here path.parent path.parent.names.length
  rw [ensured] at grows
  rw [List.take_length] at all
  -- The directories that were made are not in the place of the file.
  have noDirectory : made.node? (path.resolved store.here) ≠ some .directory := by
    rcases grows.each (path.resolved store.here) with same | ⟨_, _, passed, onTheWay, leads⟩
    · rw [same]
      exact admits.noDirectory
    · exact absurd leads.symm (admits.aside passed (parent ▸ onTheWay))
  have entry : made.entryPlace store.here path = .ok (some (path.resolved store.here)) := by
    rcases entryPlace_of_above (grows.closed closed) admits.fits (parent ▸ all) with
      ⟨_, isDirectory⟩ | entry
    · exact absurd isDirectory noDirectory
    · exact entry
  refine ⟨fillFile (made.put (path.resolved store.here) (.file [])) (path.resolved store.here) content, ?_⟩
  simp only [write, ensureDirectories, fits.noNul, admits.fits.noNul, ensured,
    refusal?_of_bytes? readable, readable, openFile, entry, if_neg noDirectory, Bool.false_eq_true,
    if_false]

/-- Writing that succeeds was admitted. -/
theorem admits_of_write (returned : store.write path artifact before = (.ok result, after)) :
    store.Admits path before := by
  obtain ⟨made, place, _, noNul, -, ensured, entry, occupied, -, -⟩ := write_eq_ok returned
  obtain ⟨_, -, writes⟩ := writes_of_write returned
  have grows := growsAlong_of_ensureFirst before store.here path.parent path.parent.names.length
  rw [← ensureDirectories, ensured] at grows
  -- The file was a new entry below directories that were there or have been made.
  have all := writes.allDirectories
  obtain ⟨parent, walked, -⟩ := writes.walks
  obtain ⟨short, above, name, parts, down, fits⟩ := names_of_entryPlace entry
  obtain ⟨_, _, -, rfl, -⟩ := entryPlace_eq_some entry
  refine ⟨⟨noNul, short, fun other member => ?_⟩, ?_, ?_, ?_, ?_, ?_⟩
  · rw [parts] at member walked
    rw [List.dropLast_concat] at walked
    rcases List.mem_append.mp member with earlier | last
    · exact short_of_walk walked other earlier
    · rw [List.mem_singleton.mp last, fits]
  · exact named_of_entryPlace ensured entry occupied
  · intro passed onTheWay same
    have isDirectory := all passed onTheWay
    rw [same] at isDirectory
    exact absurd (writes.holds.symm.trans isDirectory) (by simp)
  · intro relative
    have relative' : path.parent.anchor = .here := relative
    exact grounded_of_ensureFirst relative' ensured
  · intro passed onTheWay content file
    have isDirectory := all passed onTheWay
    by_cases target : Place.follow [] passed = Place.follow [] (namesFrom store.here path)
    · rw [target, writes.holds] at isDirectory
      cases isDirectory
    · rcases writes.others _ target with same | ⟨absent, _⟩
      · rw [same, file] at isDirectory
        cases isDirectory
      · rw [absent] at file
        cases file
  · intro isDirectory
    rcases grows.each (path.resolved store.here) with same | ⟨absent, _⟩
    · exact occupied (same.trans isDirectory)
    · rw [absent] at isDirectory
      cases isDirectory

end Store

end SourceAttest
