import SourceAttest.Proofs.Repository.Resolution
import SourceAttest.Repository.Store

/-!
# What a step does to a tree

Making directories adds directories on the way of a path. Writing binds the place that the path
leads to and makes what is missing above it. Removing takes away what lies inside a place. The main
results are `Store.writes_of_write`, `Store.cases_of_failed_write` and `Store.clears_of_deletePartial`,
which say all that a step of the store can have done to a tree, and that the tree stays closed.
-/
namespace SourceAttest

namespace Tree

/-- Some directories were made on the way of some names, and nothing else happened. -/
structure GrowsAlong (names : List String) (before after : Tree) : Prop where
  each : ∀ place, after.node? place = before.node? place ∨
    (before.node? place = none ∧ after.node? place = some .directory ∧
      ∃ passed, passed <+: names ∧ place = Place.follow [] passed)
  closed : before.IsClosed → after.IsClosed

/-- A file was written where some names lead; the directories on the way are there. -/
structure Writes (names : List String) (content : List UInt8) (before after : Tree) : Prop where
  holds : after.node? (Place.follow [] names) = some (.file content)
  others : ∀ place, place ≠ Place.follow [] names → after.node? place = before.node? place ∨
    (before.node? place = none ∧ after.node? place = some .directory ∧
      ∃ passed, passed <+: names ∧ place = Place.follow [] passed)
  walks : ∃ parent, after.walk [] names.dropLast = .ok parent ∧
    after.node? parent = some .directory
  closed : before.IsClosed → after.IsClosed

/-- Places at and inside a directory were emptied, and nothing else happened. -/
structure Clears (directory : Place) (before after : Tree) : Prop where
  each : ∀ place, after.node? place = before.node? place ∨
    (directory <+: place ∧ after.node? place = none ∧
      (place = directory → before.node? place = some .directory))
  closed : before.IsClosed → after.IsClosed

/-! ### Making directories -/

theorem GrowsAlong.refl (names : List String) (tree : Tree) : GrowsAlong names tree tree :=
  ⟨fun _ => .inl rfl, id⟩

theorem GrowsAlong.trans {names : List String} {before middle after : Tree}
    (first : GrowsAlong names before middle) (second : GrowsAlong names middle after) :
    GrowsAlong names before after := by
  refine ⟨fun place => ?_, fun closed => second.closed (first.closed closed)⟩
  -- What the second step made, the first one cannot have made already.
  rcases second.each place with same | ⟨absent, made, passed⟩
  · rcases first.each place with same' | ⟨absent, made, passed⟩
    · exact .inl (same.trans same')
    · exact .inr ⟨absent, same.trans made, passed⟩
  · rcases first.each place with same' | ⟨absent', made', _⟩
    · exact .inr ⟨same' ▸ absent, made, passed⟩
    · rw [absent] at made'; cases made'

theorem GrowsAlong.mono {names more : List String} {before after : Tree} (shorter : names <+: more)
    (grows : GrowsAlong names before after) : GrowsAlong more before after := by
  refine ⟨fun place => ?_, grows.closed⟩
  rcases grows.each place with same | ⟨absent, made, passed, isPrefix, leads⟩
  · exact .inl same
  · exact .inr ⟨absent, made, passed, isPrefix.trans shorter, leads⟩

theorem GrowsAlong.file?_eq {names : List String} {before after : Tree}
    (grows : GrowsAlong names before after) (place : Place) :
    after.file? place = before.file? place := by
  rcases grows.each place with same | ⟨absent, made, _⟩
  · exact file?_of_node? same
  · rw [file?, file?, absent, made]

theorem IsClosed.put {tree : Tree} (closed : tree.IsClosed) {parent : Place} {name : String}
    (node : Node) (inside : tree.node? parent = some .directory)
    (fresh : tree.node? (parent ++ [name]) ≠ some .directory) :
    IsClosed (Table.put (parent ++ [name]) node tree) := by
  have below : parent ++ [name] ≠ [] := by simp
  intro place entry bound
  rw [node?_put tree below] at bound ⊢
  -- Nothing can be inside the new entry, for it was no directory before.
  by_cases here : place = parent ++ [name]
  · have deeper : place ++ [entry] ≠ parent ++ [name] := by simp [here]
    rw [if_neg deeper] at bound
    exact absurd (here ▸ closed place entry bound) fresh
  · rw [if_neg here]
    by_cases new : place ++ [entry] = parent ++ [name]
    · exact (List.append_inj' new rfl).1 ▸ inside
    · rw [if_neg new] at bound
      exact closed place entry bound

theorem entryPlace_eq_some {tree : Tree} {here place : Place} {path : Path}
    (returned : tree.entryPlace here path = .ok (some place)) :
    ∃ parent name, place = parent ++ [name] ∧ place = path.resolved here ∧
      tree.walk [] (namesFrom here path).dropLast = .ok parent ∧
      tree.node? parent = some .directory := by
  simp only [entryPlace] at returned
  split_ifs at returned with long
  split at returned
  · cases returned
  next name last =>
    split at returned
    · cases returned
    next parent walked =>
      split_ifs at returned with isDirectory up tooLong
      · cases returned
      · cases returned
        -- The walk leads to the directory, and the last name from there to the entry.
        obtain ⟨above, names⟩ := List.getLast?_eq_some_iff.mp last
        refine ⟨parent, name, rfl, ?_, walked, isDirectory⟩
        rw [names, List.dropLast_concat] at walked
        rw [Path.resolved, names, Place.follow_append, ← walk_eq_follow walked, Place.follow_cons,
          Place.follow_nil, Place.step, if_neg up]

theorem growsAlong_of_makeDirectory {tree made : Tree} {here : Place} {path : Path}
    (returned : tree.makeDirectory here path = .ok made) :
    GrowsAlong (namesFrom here path) tree made := by
  rw [makeDirectory] at returned
  split at returned
  · cases returned
  · cases returned
  next place entry =>
    obtain ⟨parent, name, rfl, leads, _, inside⟩ := entryPlace_eq_some entry
    split at returned
    · cases returned
    next absent =>
      cases returned
      refine ⟨fun other => ?_, fun closed => closed.put .directory inside (by simp [absent])⟩
      rw [node?_put tree (by simp)]
      by_cases same : other = parent ++ [name]
      · rw [if_pos same]
        exact .inr ⟨same ▸ absent, rfl, _, List.prefix_refl _, same.trans leads⟩
      · exact .inl (if_neg same)

theorem growsAlong_of_ensureDirectory (tree : Tree) (here : Place) (path : Path) :
    GrowsAlong (namesFrom here path) tree (tree.ensureDirectory here path).2 := by
  rw [ensureDirectory]
  split
  next made returned => exact growsAlong_of_makeDirectory returned
  · split_ifs
    · exact .refl _ _
    · exact .refl _ _

theorem namesFrom_shorter (here : Place) (path : Path) {names : List String}
    (shorter : names <+: path.names) :
    namesFrom here ⟨path.anchor, names⟩ <+: namesFrom here path := by
  unfold namesFrom
  split_ifs
  · exact (List.prefix_append_right_inj here).mpr shorter
  · exact shorter

theorem growsAlong_of_ensureFirst (tree : Tree) (here : Place) (path : Path) (count : Nat) :
    GrowsAlong (namesFrom here path) tree (tree.ensureFirst here path count).2 := by
  have shorter (less : List String) (isPrefix : less <+: path.names) (other : Tree) :
      GrowsAlong (namesFrom here path) other
        (other.ensureDirectory here ⟨path.anchor, less⟩).2 :=
    (growsAlong_of_ensureDirectory other here _).mono (namesFrom_shorter here path isPrefix)
  -- The induction is on how many names of the path have been tried.
  induction count with
  | zero => exact shorter [] List.nil_prefix tree
  | succ count ih =>
    rw [ensureFirst]
    split
    · -- The directory above is missing, so it is made first and the path is tried again.
      split
      next made above =>
        rw [above] at ih
        exact ih.trans (shorter _ (List.take_prefix _ _) made)
      next failed => exact ih
    · exact shorter _ (List.take_prefix _ _) tree

/-! ### Writing files -/

theorem writes_put {tree : Tree} {here place : Place} {path : Path} (content : List UInt8)
    (entry : tree.entryPlace here path = .ok (some place))
    (noDirectory : tree.node? place ≠ some .directory) :
    Writes (namesFrom here path) content tree (tree.put place (.file content)) := by
  obtain ⟨parent, name, rfl, leads, walked, inside⟩ := entryPlace_eq_some entry
  have below : parent ++ [name] ≠ [] := by simp
  have ends : Place.follow [] (namesFrom here path) = parent ++ [name] := leads.symm
  have onTheWay := allDirectories_of_walk walked inside
  -- The new file is no directory, so it stands nowhere on the way to its own parent.
  have unchanged : ∀ passed, passed <+: (namesFrom here path).dropLast →
      node? (tree.put (parent ++ [name]) (.file content)) (Place.follow [] passed)
        = tree.node? (Place.follow [] passed) := by
    intro passed isPrefix
    rw [node?_put tree below, if_neg]
    intro same
    exact noDirectory (same ▸ onTheWay passed isPrefix)
  refine ⟨?_, fun other different => ?_, ⟨parent, ?_, ?_⟩, fun closed => ?_⟩
  · rw [node?_put tree below, if_pos ends]
  · rw [node?_put tree below, if_neg (ends ▸ different)]
    exact .inl rfl
  · rw [walk_congr unchanged, walked]
  · have last := unchanged _ (List.prefix_refl _)
    rw [← walk_eq_follow walked] at last
    rw [last, inside]
  · exact closed.put (.file content) inside noDirectory

/-- Opening puts an empty file where the path leads, and filling puts the content in its place. -/
theorem openFile_eq_ok {tree opened : Tree} {here place : Place} {path : Path}
    (returned : tree.openFile here path = .ok (place, opened)) :
    tree.entryPlace here path = .ok (some place) ∧ tree.node? place ≠ some .directory ∧
      opened = tree.put place (.file []) ∧
      ∀ content, opened.fillFile place content = tree.put place (.file content) := by
  rw [openFile] at returned
  split at returned
  · cases returned
  · cases returned
  next found entry =>
    split_ifs at returned with occupied
    cases returned
    exact ⟨entry, occupied, rfl, fun content => Table.put_put _ _ _ tree⟩

/-- Making directories on the way before writing is part of the writing. -/
theorem Writes.after_growsAlong {names less : List String} {content : List UInt8}
    {before made after : Tree} (shorter : less <+: names) (grows : GrowsAlong less before made)
    (writes : Writes names content made after) : Writes names content before after := by
  refine ⟨writes.holds, fun place different => ?_, writes.walks,
    fun closed => writes.closed (grows.closed closed)⟩
  rcases writes.others place different with same | ⟨absent, new, passed⟩
  · rcases (grows.mono shorter).each place with same' | ⟨absent, new, passed⟩
    · exact .inl (same.trans same')
    · exact .inr ⟨absent, same.trans new, passed⟩
  · rcases grows.each place with same' | ⟨absent', new', _⟩
    · exact .inr ⟨same' ▸ absent, new, passed⟩
    · rw [absent] at new'; cases new'

theorem Writes.file?_of_ne {names : List String} {content : List UInt8} {before after : Tree}
    (writes : Writes names content before after) {place : Place}
    (different : place ≠ Place.follow [] names) : after.file? place = before.file? place := by
  rcases writes.others place different with same | ⟨absent, new, _⟩
  · exact file?_of_node? same
  · rw [file?, file?, absent, new]

theorem Writes.file?_self {names : List String} {content : List UInt8} {before after : Tree}
    (writes : Writes names content before after) :
    after.file? (Place.follow [] names) = some content := by
  rw [file?, writes.holds]

theorem Writes.allDirectories {names : List String} {content : List UInt8} {before after : Tree}
    (writes : Writes names content before after) : after.AllDirectories [] names.dropLast := by
  obtain ⟨parent, walked, inside⟩ := writes.walks
  exact allDirectories_of_walk walked inside

/-- Away from the file and the way to it, nothing has happened. -/
theorem Writes.node?_of_off {names : List String} {content : List UInt8} {before after : Tree}
    (writes : Writes names content before after) {place : Place}
    (different : place ≠ Place.follow [] names)
    (off : ∀ passed, passed <+: names.dropLast → place ≠ Place.follow [] passed) :
    after.node? place = before.node? place := by
  rcases writes.others place different with same | ⟨_, _, passed, onTheWay, leads⟩
  · exact same
  · rcases Place.last_or_onTheWay onTheWay with rfl | early
    · exact absurd leads different
    · exact absurd leads (off passed early)

/-! ### Removing directories -/

theorem get?_filter {p : Place → Bool} (tree : Tree) (place : Place) :
    Table.get? place (tree.filter fun entry => p entry.1)
      = if p place = true then tree.get? place else none := by
  induction tree with
  | nil => simp [Table.get?]
  | cons entry rest ih =>
    obtain ⟨key, node⟩ := entry
    by_cases kept : p key = true
    · by_cases here : key = place
      · subst here
        simp [kept, Table.get?]
      · simp only [List.filter_cons, kept, if_true, Table.get?, if_neg here, ih]
    · by_cases here : key = place
      · subst here
        simp [kept, ih]
      · simp only [List.filter_cons, if_neg kept, Table.get?, if_neg here, ih]

theorem isInside_iff (outer inner : Place) :
    isInside outer inner = true ↔ outer <+: inner ∧ outer ≠ inner := by
  simp [isInside]

theorem node?_clear (tree : Tree) (directory place : Place) :
    (tree.clear directory).node? place
      = if isInside directory place then none else tree.node? place := by
  unfold node? clear
  by_cases top : place = []
  · have outside : ¬isInside directory place = true := by
      rw [isInside_iff, top]
      exact fun inside => inside.2 (List.prefix_nil.mp inside.1)
    rw [if_pos top, if_pos top, if_neg outside]
  · have filtered := get?_filter (p := fun key => !isInside directory key) tree place
    rw [if_neg top, if_neg top, filtered]
    cases isInside directory place <;> rfl

theorem node?_remove (tree : Tree) {directory : Place} (below : directory ≠ []) (place : Place) :
    (tree.remove directory).node? place = if place = directory then none else tree.node? place := by
  unfold node? remove
  by_cases top : place = []
  · have different : place ≠ directory := fun same => below (same.symm.trans top)
    rw [if_pos top, if_neg different, if_pos top]
  · rw [if_neg top, if_neg top]
    have filtered := get?_filter (p := fun key => decide (key ≠ directory)) tree place
    rw [filtered]
    by_cases same : place = directory <;> simp [same]

/-- Emptying a place leaves a way open that does not lead inside it. -/
theorem walk_clear (tree : Tree) {directory : Place} {names : List String}
    (aside : ∀ passed, passed <+: names → isInside directory (Place.follow [] passed) = false) :
    (tree.clear directory).walk [] names = tree.walk [] names := by
  apply walk_congr
  intro passed onTheWay
  rw [node?_clear, aside passed onTheWay, if_neg Bool.false_ne_true]

theorem Clears.refl (directory : Place) (tree : Tree) : Clears directory tree tree :=
  ⟨fun _ => .inl rfl, id⟩

theorem clears_clear (tree : Tree) (directory : Place) : Clears directory tree (tree.clear directory) := by
  refine ⟨fun place => ?_, fun closed place name bound => ?_⟩
  · rw [node?_clear]
    split_ifs with inside
    · rw [isInside_iff] at inside
      exact .inr ⟨inside.1, rfl, fun same => absurd same.symm inside.2⟩
    · exact .inl rfl
  · rw [node?_clear] at bound ⊢
    split_ifs at bound with inside
    · exact absurd rfl bound
    · rw [if_neg, closed place name bound]
      rw [isInside_iff] at inside ⊢
      rintro ⟨above, -⟩
      refine inside ⟨above.trans (List.prefix_append _ _), fun same => ?_⟩
      have longer := above.length_le
      rw [same, List.length_append, List.length_singleton] at longer
      omega

theorem clears_remove_clear (tree : Tree) {directory : Place} (below : directory ≠ [])
    (isDirectory : tree.node? directory = some .directory) :
    Clears directory tree ((tree.clear directory).remove directory) := by
  have cleared := clears_clear tree directory
  refine ⟨fun place => ?_, fun closed place name bound => ?_⟩
  · rw [node?_remove _ below]
    split_ifs with same
    · exact .inr ⟨same ▸ List.prefix_refl _, rfl, fun _ => same ▸ isDirectory⟩
    · exact cleared.each place
  -- What lies in the removed directory has been cleared before.
  · rw [node?_remove _ below] at bound ⊢
    split_ifs at bound with last
    · exact absurd rfl bound
    -- So the directory of what is left is not the removed one.
    · rw [if_neg, cleared.closed closed place name bound]
      rintro rfl
      rw [node?_clear, if_pos] at bound
      · exact bound rfl
      · rw [isInside_iff]
        exact ⟨List.prefix_append _ _, by simp⟩

theorem walk_of_locate {tree : Tree} {here place : Place} {path : Path}
    (returned : tree.locate here path = .ok place) :
    tree.walk [] (namesFrom here path) = .ok place := by
  rw [locate] at returned
  split_ifs at returned
  exact returned

theorem walk_of_locate_notFound {tree : Tree} {here : Place} {path : Path}
    (missing : tree.locate here path = .error .notFound) :
    tree.walk [] (namesFrom here path) = .error .notFound := by
  rw [locate] at missing
  split_ifs at missing
  · cases missing
  · exact missing

theorem locate_eq_resolved {tree : Tree} {here place : Place} {path : Path}
    (returned : tree.locate here path = .ok place) : place = path.resolved here :=
  walk_eq_follow (walk_of_locate returned)

/-- Removing a directory empties it at most, whether it succeeds or not. -/
theorem clears_of_removeDirectory (tree : Tree) (here : Place) (path : Path)
    (below : path.resolved here ≠ []) :
    Clears (path.resolved here) tree (tree.removeDirectory here path).2 := by
  rw [removeDirectory]
  split
  · exact .refl _ _
  next place located =>
    obtain rfl := locate_eq_resolved located
    split_ifs with isDirectory
    · dsimp only
      split
      · exact clears_clear _ _
      next again relocated =>
        obtain rfl := locate_eq_resolved relocated
        exact clears_remove_clear tree below isDirectory
    · exact .refl _ _

theorem Clears.file?_of_outside {directory : Place} {before after : Tree}
    (clears : Clears directory before after) {place : Place}
    (outside : isInside directory place = false) : after.file? place = before.file? place := by
  rcases clears.each place with same | ⟨above, gone, was⟩
  · exact file?_of_node? same
  · have same : directory = place := by
      by_contra different
      exact absurd ((isInside_iff _ _).mpr ⟨above, different⟩) (by simp [outside])
    rw [file?, file?, gone, was same.symm]

end Tree

/-! ### Steps of the store -/

namespace Store

open SourceAttest.Tree

theorem namesFrom_parent_shorter (here : Place) (path : Path) :
    namesFrom here path.parent <+: namesFrom here path :=
  namesFrom_shorter here path (List.dropLast_prefix _)

/-- Writing that succeeds makes the directories above a file, and then the file. -/
theorem write_eq_ok {store : Store} {path result : Path} {artifact : Artifact} {before after : Tree}
    (returned : store.write path artifact before = (.ok result, after)) :
    ∃ made place content, path.hasNul = false ∧ artifact.bytes? = .ok content ∧
      before.ensureDirectories store.here path.parent = (.ok (), made) ∧
      made.entryPlace store.here path = .ok (some place) ∧ made.node? place ≠ some .directory ∧
      after = made.put place (.file content) ∧ result = path := by
  simp only [Store.write] at returned
  split at returned
  · cases returned
  split at returned
  · cases returned
  next made ensured =>
    split at returned
    · cases returned
    split at returned
    · cases returned
    next noNul =>
      split at returned
      · cases returned
      next place opened opens =>
        obtain ⟨entry, noDirectory, -, fills⟩ := openFile_eq_ok opens
        split at returned
        · cases returned
        next content readable =>
          cases returned
          exact ⟨made, place, content, by simpa using noNul, readable, ensured, entry, noDirectory,
            fills content, rfl⟩

/-- A save that returns has written the content where its path leads. -/
theorem writes_of_write {store : Store} {path result : Path} {artifact : Artifact}
    {before after : Tree} (returned : store.write path artifact before = (.ok result, after)) :
    ∃ content, artifact.bytes? = .ok content ∧
      Writes (namesFrom store.here path) content before after := by
  obtain ⟨made, place, content, -, readable, ensured, entry, noDirectory, rfl, -⟩ :=
    write_eq_ok returned
  have grows := growsAlong_of_ensureFirst before store.here path.parent path.parent.names.length
  rw [← ensureDirectories, ensured] at grows
  exact ⟨content, readable, (writes_put content entry noDirectory).after_growsAlong
    (namesFrom_parent_shorter store.here path) grows⟩

/-- Only a text without an encoding is refused after its file has been opened. -/
theorem eq_unpaired_of_bytes? {artifact : Artifact} {fault : Fault}
    (accepted : artifact.refusal? = none) (unreadable : artifact.bytes? = .error fault) :
    ∃ text, artifact = .value (.unpaired text) ∧ fault = .shape (.notEncodable text) := by
  cases artifact with
  | bytes data => cases unreadable
  | value value =>
    cases value with
    | string text => cases unreadable
    | unpaired text =>
      cases unreadable
      exact ⟨text, rfl, rfl⟩
    | _ => cases accepted

/-- Why a save fails before it has opened its file. -/
inductive Unopened (path : Path) (artifact : Artifact) : Fault → Prop
  | nul (held : path.parent.hasNul = true ∨ path.hasNul = true) : Unopened path artifact .nullInPath
  | system (why : FileFault) : Unopened path artifact (.notWritten path.text why)
  | refused {fault : Fault} (refused : artifact.refusal? = some fault) : Unopened path artifact fault

/-- A save that fails has made directories at most, or it has emptied the file where its path leads,
for a text that has no encoding. -/
theorem cases_of_failed_write {store : Store} {path : Path} {artifact : Artifact} {fault : Fault}
    {before after : Tree} (failed : store.write path artifact before = (.error fault, after)) :
    Unopened path artifact fault ∧ GrowsAlong (namesFrom store.here path.parent) before after ∨
      ∃ text, artifact = .value (.unpaired text) ∧ fault = .shape (.notEncodable text) ∧
        Writes (namesFrom store.here path) [] before after := by
  have grows := growsAlong_of_ensureFirst before store.here path.parent path.parent.names.length
  simp only [Store.write] at failed
  -- A write fails in making the directories, in opening the file, or with the file open.
  split at failed
  next held =>
    cases failed
    exact .inl ⟨.nul (.inl held), .refl _ _⟩
  rw [← ensureDirectories] at grows
  split at failed
  next why made ensured =>
    cases failed
    rw [ensured] at grows
    exact .inl ⟨.system why, grows⟩
  next made ensured =>
    rw [ensured] at grows
    split at failed
    next refused =>
      cases failed
      exact .inl ⟨.refused refused, grows⟩
    next accepted =>
      split at failed
      next held =>
        cases failed
        exact .inl ⟨.nul (.inr held), grows⟩
      split at failed
      · cases failed
        exact .inl ⟨.system _, grows⟩
      next place opened opens =>
        obtain ⟨entry, noDirectory, rfl, -⟩ := openFile_eq_ok opens
        split at failed
        next unreadable =>
          cases failed
          obtain ⟨text, rfl, rfl⟩ := eq_unpaired_of_bytes? accepted unreadable
          exact .inr ⟨text, rfl, rfl, (writes_put [] entry noDirectory).after_growsAlong
            (namesFrom_parent_shorter store.here path) grows⟩
        · cases failed

/-- Whatever comes of writing, directories have been made at most, or the file has been written. -/
theorem cases_of_write (store : Store) (path : Path) (artifact : Artifact) (tree : Tree) :
    GrowsAlong (namesFrom store.here path.parent) tree (store.write path artifact tree).2 ∨
      ∃ content, Writes (namesFrom store.here path) content tree (store.write path artifact tree).2 := by
  cases run : store.write path artifact tree with
  | mk outcome after =>
    cases outcome with
    | error fault =>
      rcases cases_of_failed_write run with ⟨-, grows⟩ | ⟨_, -, -, writes⟩
      · exact .inl grows
      · exact .inr ⟨[], writes⟩
    | ok result =>
      obtain ⟨content, -, writes⟩ := writes_of_write run
      exact .inr ⟨content, writes⟩

/-- What was inside directories is inside directories still, whatever comes of writing. -/
theorem closed_of_write (store : Store) (path : Path) (artifact : Artifact) {tree : Tree}
    (closed : tree.IsClosed) : IsClosed (store.write path artifact tree).2 := by
  rcases store.cases_of_write path artifact tree with grows | ⟨_, writes⟩
  · exact grows.closed closed
  · exact writes.closed closed

/-- Whatever comes of writing, only the file where the path leads can have changed. -/
theorem file?_of_write (store : Store) (path : Path) (artifact : Artifact) (tree : Tree)
    {place : Place} (different : place ≠ path.resolved store.here) :
    file? (store.write path artifact tree).2 place = tree.file? place := by
  rcases store.cases_of_write path artifact tree with grows | ⟨_, writes⟩
  · exact grows.file?_eq place
  · exact writes.file?_of_ne different

/-- Removing the partial record of a contract empties its directory at most. -/
theorem clears_of_deletePartial (store : Store) (chain address : String) (tree : Tree)
    (below : (recordDirectory store.root .partly chain address).resolved store.here ≠ []) :
    Clears ((recordDirectory store.root .partly chain address).resolved store.here) tree
      (store.deletePartial chain address tree).2 := by
  have clears := clears_of_removeDirectory tree store.here
    (recordDirectory store.root .partly chain address) below
  simp only [deletePartial]
  split
  · exact .refl _ _
  split
  next removed outcome => rw [outcome] at clears; exact clears
  next why left outcome =>
    rw [outcome] at clears
    split_ifs <;> exact clears

end Store

end SourceAttest
