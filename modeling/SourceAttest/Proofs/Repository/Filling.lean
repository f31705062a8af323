import SourceAttest.Proofs.Repository.Records

/-!
# Filling a record

Several files of one record are written one after the other. Whatever they are, files outside the
record stay, and the only other new places are directories on the way to the record. The main
results are `Store.Written.fills`, and `Store.Written.holdsText`, by which the last file that goes to a
place is the one that is kept.
-/
namespace SourceAttest

namespace Tree

/-- Files were written inside the place that some names lead to, and directories on the way made. -/
structure Fills (names : List String) (before after : Tree) : Prop where
  each : ∀ place, after.node? place = before.node? place ∨
    isInside (Place.follow [] names) place = true ∨
    (before.node? place = none ∧ after.node? place = some .directory ∧
      ∃ passed, passed <+: names ∧ place = Place.follow [] passed)
  closed : before.IsClosed → after.IsClosed

variable {names : List String} {before middle after : Tree}

theorem Fills.refl (names : List String) (tree : Tree) : Fills names tree tree :=
  ⟨fun _ => .inl rfl, id⟩

theorem Fills.trans (first : Fills names before middle) (second : Fills names middle after) :
    Fills names before after := by
  constructor
  · intro place
    rcases second.each place with same | inside | ⟨absent, made, passed⟩
    · rw [same]
      exact first.each place
    · exact .inr (.inl inside)
    -- What is made in the second step was not there after the first one.
    · rcases first.each place with same | inside | ⟨_, made', _⟩
      · exact .inr (.inr ⟨same ▸ absent, made, passed⟩)
      · exact .inr (.inl inside)
      · rw [absent] at made'
        cases made'
  · intro closed
    exact second.closed (first.closed closed)

theorem Writes.fills {rest : List String} {content : List UInt8} (further : rest ≠ [])
    (plain : ".." ∉ rest) (writes : Writes (names ++ rest) content before after) :
    Fills names before after := by
  -- Every place behind the first names is inside.
  have deeper (more : List String) (isPrefix : more <+: rest) (some : more ≠ []) :
      isInside (Place.follow [] names) (Place.follow [] (names ++ more)) = true := by
    rw [isInside_iff, Place.follow_append,
      Place.follow_of_plain _ more fun up => plain (isPrefix.subset up)]
    exact ⟨List.prefix_append _ _, by simp [some]⟩
  constructor
  · intro place
    by_cases file : place = Place.follow [] (names ++ rest)
    · rw [file]
      exact .inr (.inl (deeper rest (List.prefix_refl _) further))
    rcases writes.others place file with same | ⟨absent, made, passed, onTheWay, leads⟩
    · exact .inl same
    · -- What was made lies either on the way to the place or inside it.
      rcases Place.onTheWay_cases onTheWay with early | ⟨more, isPrefix, rfl⟩
      · exact .inr (.inr ⟨absent, made, passed, early, leads⟩)
      · by_cases none : more = []
        · subst none
          exact .inr (.inr ⟨absent, made, names, List.prefix_refl _, by simpa using leads⟩)
        · rw [leads]
          exact .inr (.inl (deeper more isPrefix none))
  · exact writes.closed

def HoldsText (tree : Tree) (place : Place) (value : Json) : Prop :=
  ∃ text, value = .string text ∧ tree.file? place = some text.toUTF8.toList

theorem Fills.file?_of_outside (fills : Fills names before after) {place : Place}
    (outside : isInside (Place.follow [] names) place = false) :
    after.file? place = before.file? place := by
  rcases fills.each place with same | inside | ⟨absent, made, _⟩
  · exact file?_of_node? same
  · rw [outside] at inside
    cases inside
  · rw [file?, file?, absent, made]

theorem Fills.absent (fills : Fills names before after) {place : Place}
    (outside : isInside (Place.follow [] names) place = false)
    (aside : ∀ passed, passed <+: names → place ≠ Place.follow [] passed)
    (absent : before.node? place = none) : after.node? place = none := by
  rcases fills.each place with same | inside | ⟨_, _, passed, onTheWay, leads⟩
  · rw [same, absent]
  · rw [outside] at inside
    cases inside
  · exact absurd leads (aside passed onTheWay)

end Tree

namespace Store

open SourceAttest.Tree

variable {store : Store} {quality : Quality} {chain address : String} {before after : Tree}

theorem follow_recordNames (store : Store) (quality : Quality)
    (segments : IsSegment chain ∧ IsSegment address) :
    Place.follow [] (store.rootNames ++ recordNames quality chain address)
      = store.recordPlace quality chain address := by
  rw [Place.follow_append, Place.follow_of_plain _ _ (plain_recordNames segments)]
  rfl

theorem holdsText_of_write {path result : Path} {value : Json}
    (returned : store.write path (.value value) before = (.ok result, after)) :
    after.HoldsText (path.resolved store.here) value := by
  obtain ⟨content, readable, writes⟩ := writes_of_write returned
  cases value with
  | string text =>
    cases readable
    exact ⟨text, rfl, writes.file?_self⟩
  | _ => cases readable

/-- A file name that is relative and does not go up. -/
def StaysInside (fileName : String) : Prop :=
  (Path.ofString fileName).anchor = .here ∧ ".." ∉ (Path.ofString fileName).names

instance (fileName : String) : Decidable (StaysInside fileName) :=
  inferInstanceAs (Decidable ((Path.ofString fileName).anchor = .here ∧
    ".." ∉ (Path.ofString fileName).names))

/-- A file of a record lies inside it, unless its name goes up. -/
theorem names_of_targetPath (store : Store) (quality : Quality) {fileName : String} {isSource : Bool}
    (segments : IsSegment chain ∧ IsSegment address) (inside : StaysInside fileName)
    (named : isSource = true ∨ (Path.ofString fileName).names ≠ []) :
    ∃ rest, rest ≠ [] ∧ ".." ∉ rest ∧
      namesFrom store.here (store.targetPath ⟨quality, chain, address, fileName, isSource⟩)
        = store.rootNames ++ recordNames quality chain address ++ rest := by
  refine ⟨(if isSource then ["sources"] else []) ++ (Path.ofString fileName).names, ?_, ?_, ?_⟩
  · rcases named with rfl | notEmpty
    · simp
    · simp [notEmpty]
  · split <;> simp [inside.2]
  · rw [store.namesFrom_targetPath ⟨quality, chain, address, fileName, isSource⟩ segments inside.1,
      List.append_assoc]

theorem follow_fileNames (store : Store) (quality : Quality)
    (segments : IsSegment chain ∧ IsSegment address) {fileName : String} (named : IsSegment fileName) :
    Place.follow [] (store.rootNames ++ recordNames quality chain address ++ [fileName])
      = store.recordPlace quality chain address ++ [fileName] := by
  rw [Place.follow_append, store.follow_recordNames quality segments,
    Place.follow_of_plain _ _ (by simp [Ne.symm named.2.2.1])]

/-- The place of a file of a record that is not one of its sources. -/
def filePlace (store : Store) (quality : Quality) (chain address fileName : String) : Place :=
  (store.targetPath ⟨quality, chain, address, fileName, false⟩).resolved store.here

theorem resolved_targetPath_file (store : Store) {quality : Quality}
    (segments : IsSegment chain ∧ IsSegment address) {fileName : String} (named : IsSegment fileName) :
    (store.targetPath ⟨quality, chain, address, fileName, false⟩).resolved store.here
      = store.recordPlace quality chain address ++ [fileName] := by
  have plain := Path.ofString_segment named
  have names := store.namesFrom_targetPath ⟨quality, chain, address, fileName, false⟩ segments
    (by rw [plain])
  rw [Path.resolved, names, plain, ← store.follow_fileNames quality segments named]
  simp

/-! ### Files one after the other -/

/-- Files have been written one after the other, each with success. -/
inductive Written (store : Store) : List (Path × Artifact) → Tree → Tree → Prop
  | none (tree : Tree) : Written store [] tree tree
  | next {path result : Path} {artifact : Artifact} {rest : List (Path × Artifact)}
      {before middle after : Tree}
      (writes : store.write path artifact before = (.ok result, middle))
      (others : Written store rest middle after) : Written store ((path, artifact) :: rest) before after

namespace Written

variable {files more : List (Path × Artifact)}

theorem nil_iff : store.Written [] before after ↔ before = after := by
  constructor
  · intro written
    cases written
    rfl
  · rintro rfl
    exact .none before

theorem cons_iff {file : Path × Artifact} : store.Written (file :: files) before after ↔
    ∃ result middle, store.write file.1 file.2 before = (.ok result, middle) ∧
      store.Written files middle after := by
  constructor
  · intro written
    cases written with
    | next writes others => exact ⟨_, _, writes, others⟩
  · rintro ⟨result, middle, writes, others⟩
    exact .next writes others

theorem append_iff : store.Written (files ++ more) before after ↔
    ∃ middle, store.Written files before middle ∧ store.Written more middle after := by
  induction files generalizing before with
  | nil => simp [nil_iff]
  | cons file rest ih =>
    simp only [List.cons_append, cons_iff, ih]
    constructor
    · rintro ⟨result, first, writes, middle, written, others⟩
      exact ⟨middle, ⟨result, first, writes, written⟩, others⟩
    · rintro ⟨middle, ⟨result, first, writes, written⟩, others⟩
      exact ⟨result, first, writes, middle, written, others⟩

theorem closed (written : store.Written files before after) (closed : before.IsClosed) :
    after.IsClosed := by
  induction written with
  | none => exact closed
  | next writes _ ih =>
    obtain ⟨_, -, wrote⟩ := writes_of_write writes
    exact ih (wrote.closed closed)

/-- A place that none of the files goes to holds the file that it has held. -/
theorem file?_of_elsewhere (written : store.Written files before after) {place : Place}
    (elsewhere : ∀ file ∈ files, file.1.resolved store.here ≠ place) :
    after.file? place = before.file? place := by
  induction written with
  | none => rfl
  | @next path result artifact rest before middle after writes _ ih =>
    have kept := store.file?_of_write path artifact before (Ne.symm (elsewhere _ List.mem_cons_self))
    rw [writes] at kept
    exact (ih fun file member => elsewhere file (List.mem_cons_of_mem _ member)).trans kept

/-- Of the files that go to one place the last one is kept. -/
theorem holdsText {path : Path} {value : Json}
    (written : store.Written (files ++ (path, .value value) :: more) before after)
    (last : ∀ file ∈ more, file.1.resolved store.here ≠ path.resolved store.here) :
    after.HoldsText (path.resolved store.here) value := by
  obtain ⟨_, _, others⟩ := append_iff.mp written
  obtain ⟨_, _, writes, others⟩ := cons_iff.mp others
  obtain ⟨text, isText, holds⟩ := holdsText_of_write writes
  exact ⟨text, isText, (others.file?_of_elsewhere last).trans holds⟩

/-- Files that lie inside a place fill it. -/
theorem fills {names : List String} (written : store.Written files before after)
    (inside : ∀ file ∈ files, ∃ rest, rest ≠ [] ∧ ".." ∉ rest ∧
      namesFrom store.here file.1 = names ++ rest) : Fills names before after := by
  induction written with
  | none tree => exact .refl names tree
  | next writes _ ih =>
    obtain ⟨rest, further, plain, named⟩ := inside _ List.mem_cons_self
    obtain ⟨_, -, wrote⟩ := writes_of_write writes
    rw [named] at wrote
    exact (wrote.fills further plain).trans
      (ih fun file member => inside file (List.mem_cons_of_mem _ member))

end Written

/-! ### Documents -/

def documentPlace (store : Store) (hash : ContentHash) : Place :=
  (store.documentPath hash.path).resolved store.here

/-- A file below the root is reached through the root. -/
theorem rooted_of_write {path result : Path} {artifact : Artifact} {route : List String}
    (writes : store.write path artifact before = (.ok result, after))
    (names : namesFrom store.here path = store.rootNames ++ route) (below : route ≠ []) :
    after.walk [] store.rootNames = .ok store.rootPlace ∧
      after.node? store.rootPlace = some .directory := by
  obtain ⟨_, -, wrote⟩ := writes_of_write writes
  obtain ⟨parent, walked, isDirectory⟩ := wrote.walks
  rw [names, List.dropLast_append_of_ne_nil below] at walked
  exact ⟨(walk_of_walk_append walked).1,
    allDirectories_of_walk walked isDirectory _ (List.prefix_append _ _)⟩

/-- A save of a document that returns has written it, and has found or made the root. -/
theorem writes_of_saveAt {hash : ContentHash} {value : Json} {result : Path}
    (returned : store.saveAt hash.path (.value value) before = (.ok result, after)) :
    ∃ text, value = .string text ∧ after.file? (store.documentPlace hash) = some text.toUTF8.toList ∧
      (∀ place, place ≠ store.documentPlace hash → after.file? place = before.file? place) ∧
      (before.IsClosed → after.IsClosed) ∧
      ∃ root, after.walk [] store.rootNames = .ok root ∧ after.node? root = some .directory := by
  obtain ⟨content, readable, writes⟩ := writes_of_write returned
  obtain ⟨first, names, parts, -⟩ := store.namesFrom_documentPath hash
  have root := rooted_of_write returned parts (List.cons_ne_nil _ _)
  cases value with
  | string text =>
    cases readable
    exact ⟨text, rfl, writes.file?_self, fun place => writes.file?_of_ne, writes.closed, _, root⟩
  | _ => cases readable

/-- Documents lie outside all records. -/
theorem documentPlace_outside (store : Store) (hash : ContentHash) (quality : Quality)
    (chain address : String) :
    isInside (store.recordPlace quality chain address) (store.documentPlace hash) = false := by
  obtain ⟨first, names, parts, apart, plain⟩ := store.namesFrom_documentPath hash
  rw [← Bool.not_eq_true, isInside_iff]
  rintro ⟨above, -⟩
  rw [documentPlace, Path.resolved, parts, Place.follow_append, Place.follow_of_plain _ _ plain]
    at above
  have names := (List.prefix_append_right_inj _).mp above
  exact apart (List.cons_prefix_cons.mp names).1.symm

/-! ### Both records of a contract -/

/-- Nothing is at or inside both records. -/
theorem records_apart (store : Store) (chain address : String) {place : Place}
    (above : store.recordPlace .partly chain address <+: place) :
    isInside (store.recordPlace .full chain address) place = false := by
  rw [← Bool.not_eq_true, isInside_iff]
  rintro ⟨above', -⟩
  -- Both records are equally far down, so one of them above the other would be the same.
  have sameLength : (store.recordPlace .partly chain address).length
      = (store.recordPlace .full chain address).length := by
    simp [recordPlace, recordNames]
  have same := (List.prefix_of_prefix_length_le above above' sameLength.le).eq_of_length sameLength
  have names := List.append_cancel_left same
  simp [recordNames, Quality.directory, Quality.text] at names

theorem emptied_of_fills_full (segments : IsSegment chain ∧ IsSegment address)
    (fills : Fills (store.rootNames ++ recordNames .full chain address) before after)
    {place : Place} (inside : isInside (store.recordPlace .partly chain address) place = true)
    (absent : before.node? place = none) : after.file? place = none := by
  rw [fills.file?_of_outside, file?, absent]
  rw [store.follow_recordNames .full segments]
  exact store.records_apart chain address ((isInside_iff _ _).mp inside).1

/-- Filling the full record does not bring the partial one back. -/
theorem absent_of_fills_full (bypasses : store.Bypasses (store.recordPlace .partly chain address))
    (segments : IsSegment chain ∧ IsSegment address)
    (fills : Fills (store.rootNames ++ recordNames .full chain address) before after)
    (absent : before.node? (store.recordPlace .partly chain address) = none) :
    after.node? (store.recordPlace .partly chain address) = none := by
  -- The partial record is neither inside the full one nor on the way to it.
  have outside := store.records_apart chain address (List.prefix_refl _)
  apply fills.absent _ _ absent
  · rwa [store.follow_recordNames .full segments]
  · intro passed onTheWay leads
    rcases Place.onTheWay_cases onTheWay with early | ⟨more, isPrefix, rfl⟩
    · exact bypasses passed early (leads ▸ List.prefix_refl _)
    · have plain : ".." ∉ more := fun up => plain_recordNames segments (isPrefix.subset up)
      rw [Place.follow_append, Place.follow_of_plain _ _ plain] at leads
      rw [← List.append_cancel_left leads] at isPrefix
      simp [recordNames, Quality.directory, Quality.text] at isPrefix

end Store

end SourceAttest
