import SourceAttest.Proofs.Repository.Documents
import SourceAttest.Proofs.Repository.Edits

/-!
# Plans

Storing a contract follows a plan: a document may be published, upon which the partial record is
removed, and then the files of a record are written. The main result is `Plan.commute`: two plans for
different records that can be followed one after the other can be followed in the other order, and the
records come to the same.
-/
namespace SourceAttest

open SourceAttest.Tree

structure Plan where
  chain : String
  address : String
  quality : Quality
  document : Option (Path × Artifact)
  files : List (Path × Artifact)

namespace Plan

/-- All files of a plan, the document among them. -/
def writes (plan : Plan) : List (Path × Artifact) := plan.document.toList ++ plan.files

/-- The plan has been followed with success. -/
inductive Stores (store : Store) (plan : Plan) : Tree → Tree → Prop
  | published {path result : Path} {artifact : Artifact} {before written left after : Tree}
      (document : plan.document = some (path, artifact))
      (wrote : store.write path artifact before = (.ok result, written))
      (removed : store.deletePartial plan.chain plan.address written = (.ok (), left))
      (filled : store.Written plan.files left after) : Stores store plan before after
  | unpublished {before after : Tree} (none : plan.document = none)
      (filled : store.Written plan.files before after) : Stores store plan before after

/-- The names from the root to a file of the plan. -/
inductive IsRoute (plan : Plan) : List String → Prop
  | document (hash : ContentHash) : IsRoute plan hash.names
  | file {rest : List String} (some : rest ≠ []) :
      IsRoute plan (Store.recordNames plan.quality plan.chain plan.address ++ rest)

/-- The names from the root through which the plan leads: those above a file, and those to the partial
record. -/
inductive IsWay (plan : Plan) : List String → Prop
  | above {route further : List String} (isRoute : plan.IsRoute route)
      (part : further <+: route.dropLast) : IsWay plan further
  | record {further : List String}
      (part : further <+: Store.recordNames .partly plan.chain plan.address) : IsWay plan further

/-- The document lies beside the records, and the files lie in the record of the plan. -/
structure IsSound (store : Store) (plan : Plan) : Prop where
  segments : IsSegment plan.chain ∧ IsSegment plan.address
  document : ∀ file ∈ plan.document, ∃ hash : ContentHash, ".." ∉ hash.names ∧
    namesFrom store.here file.1 = store.rootNames ++ hash.names
  inside : ∀ file ∈ plan.files, ∃ rest, rest ≠ [] ∧ ".." ∉ rest ∧ namesFrom store.here file.1
    = store.rootNames ++ Store.recordNames plan.quality plan.chain plan.address ++ rest
  anchored : ∀ file ∈ plan.writes, file.1.anchor = store.root.anchor
  some : plan.files ≠ []

/-! ### Ways and ends -/

/-- Names that are passed on the way to a file. -/
def Passes (store : Store) (plan : Plan) (passed : List String) : Prop :=
  ∃ file ∈ plan.writes, passed <+: (namesFrom store.here file.1).dropLast

/-- Names on which no file may be in the way. -/
def Crosses (store : Store) (plan : Plan) (passed : List String) : Prop :=
  plan.Passes store passed ∨
    passed <+: store.rootNames ++ Store.recordNames .partly plan.chain plan.address

/-- Places at which a file is put. -/
def Ends (store : Store) (plan : Plan) (place : Place) : Prop :=
  ∃ file ∈ plan.writes, place = file.1.resolved store.here

/-- All that following the plan does to a tree. -/
def edit (store : Store) (plan : Plan) : Edit :=
  match plan.document with
  | some (path, artifact) =>
    ((Edit.ofFile store path artifact).andThen (.removal store plan.chain plan.address)).andThen
      (.ofFiles store plan.files)
  | none => .ofFiles store plan.files

variable {store : Store} {plan other : Plan}

theorem mem_writes {file : Path × Artifact} :
    file ∈ plan.writes ↔ plan.document = some file ∨ file ∈ plan.files := by
  rw [writes, List.mem_append, Option.mem_toList]

theorem IsRoute.ne_nil {route : List String} (isRoute : plan.IsRoute route) : route ≠ [] := by
  cases isRoute with
  | document hash => exact hash.names_ne_nil
  | file some => simp [Store.recordNames]

/-- No file is on the way to a record. -/
theorem IsRoute.not_prefix_record {route : List String} (isRoute : plan.IsRoute route)
    (quality : Quality) (chain address : String) :
    ¬ route <+: Store.recordNames quality chain address := by
  intro within
  cases isRoute with
  | document hash => exact hash.names_not_prefix_contracts _ within
  | file some =>
    have longer := within.length_le
    have notEmpty := List.length_pos_iff.mpr some
    simp only [Store.recordNames, List.length_append, List.length_cons, List.length_nil] at longer
    omega

/-- A plan does nothing but putting files, making the directories above them and removing a partial
record. -/
theorem edit_cases {place : Place} {node : Option Node} (sets : plan.edit store place = some node) :
    (plan.Ends store place ∧ ∃ content, node = some (.file content)) ∨
    (∃ passed, plan.Passes store passed ∧ place = Place.follow [] passed ∧ node = some .directory) ∨
    store.recordPlace .partly plan.chain plan.address <+: place ∧ node = none := by
  have filed (sets : Edit.ofFiles store plan.files place = some node) :
      (plan.Ends store place ∧ ∃ content, node = some (.file content)) ∨
      ∃ passed, plan.Passes store passed ∧ place = Place.follow [] passed ∧ node = some .directory := by
    obtain ⟨file, member, ⟨leads, held⟩ | ⟨passed, onTheWay, made⟩⟩ := Edit.ofFiles_cases sets
    · exact .inl ⟨⟨file, mem_writes.mpr (.inr member), leads⟩, held⟩
    · exact .inr ⟨passed, ⟨file, mem_writes.mpr (.inr member), onTheWay⟩, made⟩
  unfold edit at sets
  cases document : plan.document with
  | none =>
    rw [document] at sets
    exact (filed sets).imp_right .inl
  | some file =>
    rw [document] at sets
    have member : file ∈ plan.writes := mem_writes.mpr (.inl document)
    rcases Edit.andThen_cases sets with early | late
    · rcases Edit.andThen_cases early with wrote | removed
      · rcases Edit.ofFile_cases wrote with ⟨leads, held⟩ | ⟨passed, onTheWay, made⟩
        · exact .inl ⟨⟨_, member, leads⟩, held⟩
        · exact .inr (.inl ⟨passed, ⟨_, member, onTheWay⟩, made⟩)
      · exact .inr (.inr (Edit.removal_cases removed))
    · exact (filed late).imp_right .inl

namespace IsSound

variable (sound : plan.IsSound store)

include sound

theorem route {file : Path × Artifact} (member : file ∈ plan.writes) :
    ∃ route, plan.IsRoute route ∧ ".." ∉ route ∧
      namesFrom store.here file.1 = store.rootNames ++ route := by
  rcases mem_writes.mp member with document | listed
  · obtain ⟨hash, plain, names⟩ := sound.document file document
    exact ⟨_, .document hash, plain, names⟩
  · obtain ⟨rest, some, plain, names⟩ := sound.inside file listed
    refine ⟨_, .file some, ?_, by rw [names, List.append_assoc]⟩
    rw [List.mem_append, not_or]
    exact ⟨Store.plain_recordNames sound.segments, plain⟩

theorem ends_cases {place : Place} (ends : plan.Ends store place) :
    ∃ route, plan.IsRoute route ∧ place = store.rootPlace ++ route := by
  obtain ⟨file, member, rfl⟩ := ends
  obtain ⟨route, isRoute, plain, names⟩ := sound.route member
  refine ⟨route, isRoute, ?_⟩
  rw [Path.resolved, names, Place.follow_append, Place.follow_of_plain _ _ plain]
  rfl

/-- The way of a plan is the way to the root, and then leads down. -/
theorem crosses_cases {passed : List String} (crosses : plan.Crosses store passed) :
    passed <+: store.rootNames ∨
    ∃ further, plan.IsWay further ∧ Place.follow [] passed = store.rootPlace ++ further := by
  rcases crosses with ⟨file, member, onTheWay⟩ | onTheWay
  · obtain ⟨route, isRoute, plain, names⟩ := sound.route member
    rw [names, List.dropLast_append_of_ne_nil isRoute.ne_nil] at onTheWay
    refine (store.onTheWay_cases (fun up => plain (List.dropLast_subset _ up)) onTheWay).imp_right ?_
    exact fun ⟨further, part, leads⟩ => ⟨further, .above isRoute part, leads⟩
  · refine (store.onTheWay_cases (Store.plain_recordNames sound.segments) onTheWay).imp_right ?_
    exact fun ⟨further, part, leads⟩ => ⟨further, .record part, leads⟩

/-- The way to the root is passed on the way to each file. -/
theorem passes_of_early {passed : List String} (early : passed <+: store.rootNames) :
    plan.Passes store passed := by
  obtain ⟨file, listed⟩ := List.exists_mem_of_ne_nil _ sound.some
  obtain ⟨route, isRoute, -, names⟩ := sound.route (mem_writes.mpr (.inr listed))
  refine ⟨file, mem_writes.mpr (.inr listed), ?_⟩
  rw [names, List.dropLast_append_of_ne_nil isRoute.ne_nil]
  exact early.trans (List.prefix_append _ _)

theorem concerns {file : Path × Artifact} (member : file ∈ plan.writes) :
    store.Concerns (plan.Crosses store) (plan.Ends store) file.1 :=
  ⟨fun _ onTheWay => .inl ⟨file, member, onTheWay⟩, ⟨file, member, rfl⟩, sound.anchored file member⟩

end IsSound

/-! ### Following a plan -/

namespace Stores

variable {before after : Tree}

theorem filled (stores : plan.Stores store before after) :
    ∃ left, store.Written plan.files left after := by
  cases stores with
  | published _ _ _ filled => exact ⟨_, filled⟩
  | unpublished _ filled => exact ⟨_, filled⟩

/-- A document that is planned has been published before the files were written. -/
theorem published_of_document (stores : plan.Stores store before after) {file : Path × Artifact}
    (document : plan.document = some file) :
    ∃ result written left, store.write file.1 file.2 before = (.ok result, written) ∧
      store.deletePartial plan.chain plan.address written = (.ok (), left) ∧
      store.Written plan.files left after := by
  cases stores with
  | published document' wrote removed filled =>
    rw [document'] at document
    cases document
    exact ⟨_, _, _, wrote, removed, filled⟩
  | unpublished none =>
    rw [none] at document
    cases document

theorem admits (stores : plan.Stores store before after) {file : Path × Artifact}
    (member : file ∈ plan.writes) : ∃ tree, store.Admits file.1 tree := by
  rcases mem_writes.mp member with document | listed
  · obtain ⟨_, _, _, wrote, -⟩ := stores.published_of_document document
    exact ⟨_, Store.admits_of_write wrote⟩
  · obtain ⟨_, filled⟩ := stores.filled
    exact (filled.held listed).1

section

variable (sound : plan.IsSound store) (stores : plan.Stores store before after)

include sound stores

theorem closed (closed : before.IsClosed) : after.IsClosed := by
  cases stores with
  | published document wrote removed filled =>
    obtain ⟨_, -, writes⟩ := Store.writes_of_write wrote
    exact filled.closed ((store.clears_record sound.segments removed).closed (writes.closed closed))
  | unpublished none filled => exact filled.closed closed

theorem edited (closed : before.IsClosed) : before.Edited (plan.edit store) after := by
  unfold edit
  cases stores with
  | published document wrote removed filled =>
    obtain ⟨route, isRoute, -, names⟩ := sound.route (mem_writes.mpr (.inl document))
    obtain ⟨_, -, writes⟩ := Store.writes_of_write wrote
    obtain ⟨walked, isDirectory⟩ := Store.rooted_of_write wrote names isRoute.ne_nil
    rw [document]
    exact ((Store.edited_of_write wrote).andThen (Store.edited_of_deletePartial (writes.closed closed)
      sound.segments walked isDirectory removed)).andThen filled.edited
  | unpublished none filled =>
    rw [none]
    exact filled.edited

/-- A file that is there in the end has been there, or has been put there. -/
theorem file_cases (closed : before.IsClosed) {place : Place} {content : List UInt8}
    (file : after.node? place = some (.file content)) :
    before.node? place = some (.file content) ∨ plan.Ends store place := by
  rw [edited sound stores closed] at file
  cases sets : plan.edit store place with
  | none => exact .inl (by simpa [sets] using file)
  | some node =>
    rw [sets, Option.getD_some] at file
    rcases edit_cases sets with ⟨ends, -⟩ | ⟨_, -, -, made⟩ | ⟨-, gone⟩
    · exact .inr ends
    · cases made.symm.trans file
    · cases gone.symm.trans file

/-- A directory that is there in the end has been there, or is passed on the way to a file. -/
theorem directory_cases (closed : before.IsClosed) {place : Place}
    (isDirectory : after.node? place = some .directory) :
    before.node? place = some .directory ∨
      ∃ passed, plan.Passes store passed ∧ place = Place.follow [] passed := by
  rw [edited sound stores closed] at isDirectory
  cases sets : plan.edit store place with
  | none => exact .inl (by simpa [sets] using isDirectory)
  | some node =>
    rw [sets, Option.getD_some] at isDirectory
    rcases edit_cases sets with ⟨-, _, held⟩ | ⟨passed, passes, leads, -⟩ | ⟨-, gone⟩
    · cases held.symm.trans isDirectory
    · exact .inr ⟨passed, passes, leads⟩
    · cases gone.symm.trans isDirectory

/-- Outside the partial record, directories stay directories and files stay files. -/
theorem stays {place : Place} (off : ¬ store.recordPlace .partly plan.chain plan.address <+: place) :
    (before.node? place = some .directory → after.node? place = some .directory) ∧
      ∀ content, before.node? place = some (.file content) →
        ∃ other, after.node? place = some (.file other) := by
  cases stores with
  | @published _ _ _ _ written left _ document wrote removed filled =>
    have grows := Store.growsInto_of_write wrote
    have kept : left.node? place = written.node? place :=
      ((store.clears_record sound.segments removed).each place).resolve_right fun gone => off gone.1
    refine ⟨fun isDirectory => ?_, fun content file => ?_⟩
    · exact filled.growsInto.directories _ (kept.trans (grows.directories _ isDirectory))
    · obtain ⟨other, file'⟩ := grows.files _ _ file
      exact filled.growsInto.files _ _ (kept.trans file')
  | unpublished none filled =>
    exact ⟨filled.growsInto.directories place, filled.growsInto.files place⟩

/-- In the end the record is there, below directories. -/
theorem way : after.AllDirectories [] (store.rootNames ++
      Store.recordNames plan.quality plan.chain plan.address) ∧
    (store.root.anchor = .here → after.AllDirectories [] store.here.dropLast) ∧
    ∀ name ∈ store.rootNames ++ Store.recordNames plan.quality plan.chain plan.address,
      isTooLong name = false := by
  obtain ⟨_, filled⟩ := stores.filled
  obtain ⟨file, listed⟩ := List.exists_mem_of_ne_nil _ sound.some
  obtain ⟨rest, some, -, names⟩ := sound.inside file listed
  obtain ⟨⟨_, admits⟩, all, -⟩ := filled.held listed
  have fits := admits.fits.names
  refine ⟨?_, fun relative => ?_, fun name member => ?_⟩
  · rw [names, List.dropLast_append_of_ne_nil some] at all
    exact all.shorter (List.prefix_append _ _)
  · have anchored := sound.anchored file (mem_writes.mpr (.inr listed))
    exact all.shorter (dropLast_here_shorter _ _ (anchored.trans relative))
  · rw [names] at fits
    exact fits name (List.mem_append_left _ member)

/-- In the beginning no file is on the way to the root, and what is not made is there. -/
theorem start : before.IsOpen [] store.rootNames ∧
    (store.root.anchor = .here → before.AllDirectories [] store.here.dropLast) := by
  obtain ⟨file, member, admits⟩ : ∃ file ∈ plan.writes, store.Admits file.1 before := by
    cases stores with
    | published document wrote =>
      exact ⟨_, mem_writes.mpr (.inl document), Store.admits_of_write wrote⟩
    | unpublished none filled =>
      obtain ⟨file, rest, listed⟩ := List.exists_cons_of_ne_nil sound.some
      have first : file ∈ plan.files := listed ▸ List.mem_cons_self
      rw [listed] at filled
      obtain ⟨_, _, writes, -⟩ := Store.Written.cons_iff.mp filled
      exact ⟨file, mem_writes.mpr (.inr first), Store.admits_of_write writes⟩
  obtain ⟨route, isRoute, -, names⟩ := sound.route member
  have free := admits.free
  rw [names, List.dropLast_append_of_ne_nil isRoute.ne_nil] at free
  exact ⟨free.shorter (List.prefix_append _ _), fun relative =>
    admits.grounded ((sound.anchored file member).trans relative)⟩

/-- No file is put on the way to the root. -/
theorem ends_aside {place : Place} (ends : plan.Ends store place) {passed : List String}
    (early : passed <+: store.rootNames) : Place.follow [] passed ≠ place := by
  obtain ⟨file, member, rfl⟩ := ends
  obtain ⟨_, admits⟩ := stores.admits member
  obtain ⟨route, isRoute, -, names⟩ := sound.route member
  refine admits.aside passed ?_
  rw [names, List.dropLast_append_of_ne_nil isRoute.ne_nil]
  exact early.trans (List.prefix_append _ _)

/-- All directories above a file are there in the end. -/
theorem made {passed : List String} (passes : plan.Passes store passed) :
    after.node? (Place.follow [] passed) = some .directory := by
  obtain ⟨file, member, onTheWay⟩ := passes
  rcases mem_writes.mp member with document | listed
  · obtain ⟨_, _, _, wrote, removed, filled⟩ := stores.published_of_document document
    obtain ⟨_, -, writes⟩ := Store.writes_of_write wrote
    obtain ⟨hash, plain, names⟩ := sound.document _ document
    obtain ⟨first, rest, parts, apart⟩ := hash.names_apart
    rcases (store.clears_record sound.segments removed).each (Place.follow [] passed) with
      same | ⟨below, -⟩
    · exact filled.growsInto.directories _ (same.trans (writes.allDirectories _ onTheWay))
    · -- What may have been removed is on the way to the root, and has been made again.
      have whole := onTheWay.trans (List.dropLast_prefix _)
      rw [names, parts] at whole
      rw [parts] at plain
      have early := store.early_of_beside apart plain whole below
      exact (way sound stores).1 passed (early.trans (List.prefix_append _ _))
  · obtain ⟨_, filled⟩ := stores.filled
    exact (filled.held listed).2.1 passed onTheWay

/-- All files are there in the end. -/
theorem held {place : Place} (ends : plan.Ends store place) :
    ∃ content, after.node? place = some (.file content) := by
  obtain ⟨file, member, rfl⟩ := ends
  rcases mem_writes.mp member with document | listed
  · obtain ⟨_, _, _, wrote, removed, filled⟩ := stores.published_of_document document
    obtain ⟨content, -, writes⟩ := Store.writes_of_write wrote
    obtain ⟨hash, plain, names⟩ := sound.document _ document
    rcases (store.clears_record sound.segments removed).each (file.1.resolved store.here) with
      same | ⟨below, -⟩
    · exact filled.growsInto.files _ _ (same.trans writes.holds)
    · rw [Path.resolved, names, Place.follow_append, Place.follow_of_plain _ _ plain] at below
      exact absurd ((List.prefix_append_right_inj _).mp below) (hash.not_contracts_prefix_names _)
  · obtain ⟨_, filled⟩ := stores.filled
    exact (filled.held listed).2.2

theorem fits {written left : Tree}
    (removed : store.deletePartial plan.chain plan.address written = (.ok (), left)) :
    (Store.recordDirectory store.root .partly plan.chain plan.address).Fits store.here := by
  obtain ⟨noNul, short⟩ := Store.short_of_deletePartial removed
  obtain ⟨-, -, names⟩ := way sound stores
  refine ⟨noNul, short, fun name member => ?_⟩
  rw [store.namesFrom_recordDirectory sound.segments] at member
  rcases List.mem_append.mp member with inRoot | inRecord
  · exact names name (List.mem_append_left _ inRoot)
  · -- The names of the two records differ only in the directory of the quality.
    simp only [Store.recordNames, List.mem_cons, List.not_mem_nil, or_false] at inRecord
    rcases inRecord with rfl | rfl | rfl | rfl
    · decide
    · decide
    · exact names _ (by simp [Store.recordNames])
    · exact names _ (by simp [Store.recordNames])

/-- A plan that could be followed from one tree can be followed from another one that has no more in
its way. -/
theorem elsewhere {second : Tree} (closed : before.IsClosed) (closed' : second.IsClosed)
    (eases : store.Eases (plan.Crosses store) (plan.Ends store) before second) :
    ∃ last, plan.Stores store second last := by
  have concerns (file : Path × Artifact) (listed : file ∈ plan.files) :=
    sound.concerns (mem_writes.mpr (.inr listed))
  have fits' := @fits _ _ _ _ sound stores
  cases stores with
  | published document wrote removed filled =>
    have member := mem_writes.mpr (.inl document)
    obtain ⟨route, isRoute, -, names⟩ := sound.route member
    obtain ⟨_, -, writes⟩ := Store.writes_of_write wrote
    have closes := writes.closed closed
    obtain ⟨walked, isDirectory⟩ := Store.rooted_of_write wrote names isRoute.ne_nil
    -- The document is written over the second tree, ...
    obtain ⟨written', wrote', closes', eases'⟩ :=
      Store.write_over wrote closed' eases (sound.concerns member)
    obtain ⟨walked', isDirectory'⟩ := Store.rooted_of_write wrote' names isRoute.ne_nil
    -- ... the partial record is removed, ...
    have free := Store.isOpen_of_deletePartial sound.segments closes walked isDirectory removed
    obtain ⟨left', removed'⟩ := Store.deletePartial_of_isOpen sound.segments (fits' removed)
      (eases'.isOpen (fun _ onTheWay => .inr onTheWay) free)
    have eases'' := eases'.edited
      (Store.edited_of_deletePartial closes sound.segments walked isDirectory removed)
      (Store.edited_of_deletePartial closes' sound.segments walked' isDirectory' removed')
    -- ... and the files are written.
    obtain ⟨last, filled'⟩ := filled.elsewhere
      ((store.clears_record sound.segments removed').closed closes') eases'' concerns
    exact ⟨last, .published document wrote' removed' filled'⟩
  | unpublished none filled =>
    obtain ⟨last, filled'⟩ := filled.elsewhere closed' eases concerns
    exact ⟨last, .unpublished none filled'⟩

/-- What a plan has left does not stand in its own way. -/
theorem eases_again (closed : before.IsClosed) {later : Tree}
    (same : ∀ place, later.node? place = after.node? place) :
    store.Eases (plan.Crosses store) (plan.Ends store) before later := by
  refine ⟨fun passed crosses content file => ?_, fun place ends isDirectory => ?_,
    fun relative passed onTheWay _ => (same _).trans ((stores.way sound).2.1 relative passed onTheWay)⟩
  · rw [same] at file
    rcases crosses with passes | onTheWay
    · cases (stores.made sound passes).symm.trans file
    · refine ⟨content, (stores.file_cases sound closed file).resolve_right fun ends => ?_⟩
      -- No file has been put on the way to the partial record.
      rcases store.onTheWay_cases (Store.plain_recordNames sound.segments) onTheWay with
        early | ⟨further, part, leads⟩
      · exact stores.ends_aside sound ends early rfl
      · obtain ⟨route, isRoute, leads'⟩ := sound.ends_cases ends
        have same' := List.append_cancel_left (leads.symm.trans leads')
        exact isRoute.not_prefix_record _ _ _ (same' ▸ part)
  · obtain ⟨content, file⟩ := stores.held sound ends
    rw [same, file] at isDirectory
    cases isDirectory

/-- A plan can be followed again where it has been followed, and changes nothing. -/
theorem again (closed : before.IsClosed) {later : Tree}
    (same : ∀ place, later.node? place = after.node? place) :
    ∃ last, plan.Stores store later last ∧ ∀ place, last.node? place = after.node? place := by
  have closedLater := (stores.closed sound closed).of_same same
  obtain ⟨last, stores'⟩ :=
    stores.elsewhere sound closed closedLater (stores.eases_again sound closed same)
  exact ⟨last, stores',
    (stores.edited sound closed).again (stores'.edited sound closedLater) same⟩

end

end Stores

/-! ### Plans for different records -/

section Apart

/-- The records of the two plans are different. -/
def Apart (plan other : Plan) : Prop := ¬ (plan.chain = other.chain ∧ plan.address = other.address)

theorem Apart.symm (apart : plan.Apart other) : other.Apart plan := fun same =>
  apart ⟨same.1.symm, same.2.symm⟩

variable (apart : plan.Apart other)

include apart

/-- Neither of the records, of whatever quality, lies inside the other. -/
theorem Apart.not_prefix (quality quality' : Quality) :
    ¬ Store.recordNames quality plan.chain plan.address
      <+: Store.recordNames quality' other.chain other.address := by
  intro above
  have same := above.eq_of_length (by simp [Store.recordNames])
  simp only [Store.recordNames, List.cons.injEq, true_and, and_true] at same
  exact apart same.2

/-- No file of another plan lies at or inside a record. -/
theorem avoids_of_isRoute {quality : Quality} {route : List String} (isRoute : other.IsRoute route) :
    ¬ Store.recordNames quality plan.chain plan.address <+: route := by
  intro above
  cases isRoute with
  | document hash => exact hash.not_contracts_prefix_names _ above
  | file =>
    exact apart.not_prefix _ _ (List.prefix_of_prefix_length_le above (List.prefix_append _ _)
      (by simp [Store.recordNames]))

theorem avoids_of_isWay {quality : Quality} {further : List String} (isWay : other.IsWay further) :
    ¬ Store.recordNames quality plan.chain plan.address <+: further := by
  intro above
  cases isWay with
  | above isRoute part =>
    exact avoids_of_isRoute apart isRoute ((above.trans part).trans (List.dropLast_prefix _))
  | record part => exact apart.not_prefix _ _ (above.trans part)

/-- No file of one plan is in the way of another one. -/
theorem not_prefix_of_isWay {route further : List String} (isRoute : plan.IsRoute route)
    (isWay : other.IsWay further) : ¬ route <+: further := by
  intro within
  cases isRoute with
  | file some => exact avoids_of_isWay apart isWay ((List.prefix_append _ _).trans within)
  | document hash =>
    cases isWay with
    | record part =>
      have isRoute : plan.IsRoute hash.names := .document hash
      exact isRoute.not_prefix_record _ _ _ (within.trans part)
    | above isRoute' part =>
      cases isRoute' with
      | document hash' => exact hash.not_prefix_names hash' (within.trans part)
      | file =>
        exact hash.names_not_prefix_contracts _ ((within.trans part).trans (List.dropLast_prefix _))

variable (sound : plan.IsSound store) (sound' : other.IsSound store)

include sound' in
theorem avoids_of_ends {quality : Quality} {place : Place} (ends : other.Ends store place) :
    ¬ store.recordPlace quality plan.chain plan.address <+: place := by
  obtain ⟨route, isRoute, rfl⟩ := sound'.ends_cases ends
  exact fun above => avoids_of_isRoute apart isRoute ((List.prefix_append_right_inj _).mp above)

include sound' in
/-- Where another plan leads through a record, it is on the way to the root. -/
theorem early_of_crosses {quality : Quality} {passed : List String}
    (crosses : other.Crosses store passed)
    (above : store.recordPlace quality plan.chain plan.address <+: Place.follow [] passed) :
    passed <+: store.rootNames := by
  rcases sound'.crosses_cases crosses with early | ⟨further, isWay, leads⟩
  · exact early
  · rw [leads] at above
    exact absurd ((List.prefix_append_right_inj _).mp above) (avoids_of_isWay apart isWay)

include sound sound'

/-- No file of a plan that has been followed is in the way of another one. -/
theorem crosses_ne_ends {before after : Tree} (stores : plan.Stores store before after) {place : Place}
    (ends : plan.Ends store place) {passed : List String} (crosses : other.Crosses store passed) :
    Place.follow [] passed ≠ place := by
  rcases sound'.crosses_cases crosses with early | ⟨further, isWay, leads⟩
  · exact stores.ends_aside sound ends early
  · obtain ⟨route, isRoute, rfl⟩ := sound.ends_cases ends
    rw [leads]
    exact fun same => not_prefix_of_isWay apart isRoute isWay
      ((List.append_cancel_left same) ▸ List.prefix_refl _)

/-- What a first plan has done was not needed by a second one for another record. -/
theorem eases_before {before middle : Tree} (one : plan.Stores store before middle) :
    store.Eases (other.Crosses store) (other.Ends store) middle before := by
  obtain ⟨free, grounded⟩ := one.start sound
  refine ⟨fun passed crosses content file => ?_, fun place ends isDirectory => ?_,
    fun relative passed onTheWay _ => grounded relative passed onTheWay⟩
  · by_cases above : store.recordPlace .partly plan.chain plan.address <+: Place.follow [] passed
    · exact absurd file (free passed (early_of_crosses apart sound' crosses above) content)
    · exact (one.stays sound above).2 content file
  · exact (one.stays sound (avoids_of_ends apart sound' ends)).1 isDirectory

/-- What a plan for another record has done is not in the way of a plan. -/
theorem eases_after {before middle start goal : Tree} (closed : before.IsClosed)
    (one : plan.Stores store start goal) (two : other.Stores store before middle) :
    store.Eases (plan.Crosses store) (plan.Ends store) before middle := by
  refine ⟨fun passed crosses content file => ?_, fun place ends isDirectory => ?_,
    fun relative passed onTheWay _ => (two.way sound').2.1 relative passed onTheWay⟩
  · -- A file that was put there would be in the way of the first plan.
    refine ⟨content, (two.file_cases sound' closed file).resolve_right fun ends => ?_⟩
    exact crosses_ne_ends apart.symm sound' sound two ends crosses rfl
  · -- A directory that was made there would be above a file of the first plan.
    refine (two.directory_cases sound' closed isDirectory).resolve_right fun ⟨passed, passes, leads⟩ => ?_
    exact crosses_ne_ends apart sound sound' one ends (.inl passes) leads.symm

/-- A file of a plan inside `contracts` is left alone by a plan for another record. -/
theorem edit_eq_none_of_ends {before after : Tree} (stores : plan.Stores store before after)
    {place : Place} (ends : plan.Ends store place) (inside : store.rootPlace ++ ["contracts"] <+: place) :
    other.edit store place = none := by
  by_contra set
  obtain ⟨node, sets⟩ := Option.ne_none_iff_exists'.mp set
  rcases edit_cases sets with ⟨ends', -⟩ | ⟨passed, passes, leads, -⟩ | ⟨below, -⟩
  · obtain ⟨route, isRoute, rfl⟩ := sound.ends_cases ends
    cases isRoute with
    | document hash =>
      exact hash.not_contracts_prefix_names _ ((List.prefix_append_right_inj _).mp inside)
    | file =>
      have outside : ¬ store.recordPlace plan.quality plan.chain plan.address <+: _ :=
        avoids_of_ends apart sound' ends'
      rw [← List.append_assoc] at outside
      exact outside (List.prefix_append _ _)
  · exact crosses_ne_ends apart sound sound' stores ends (.inl passes) leads.symm
  · exact avoids_of_ends apart.symm sound ends below

/-- Where both plans set a place inside `contracts`, the first one passes it. -/
theorem passes_of_edits {before after before' after' : Tree} (stores : plan.Stores store before after)
    (stores' : other.Stores store before' after') {place : Place} {node node' : Option Node}
    (inside : store.rootPlace ++ ["contracts"] <+: place) (sets : plan.edit store place = some node)
    (sets' : other.edit store place = some node') :
    ∃ passed, plan.Passes store passed ∧ place = Place.follow [] passed := by
  rcases edit_cases sets with ⟨ends, -⟩ | ⟨passed, passes, leads, -⟩ | ⟨below, -⟩
  · rw [edit_eq_none_of_ends apart sound sound' stores ends inside] at sets'
    cases sets'
  · exact ⟨passed, passes, leads⟩
  · rcases edit_cases sets' with ⟨ends, -⟩ | ⟨passed, passes, rfl, -⟩ | ⟨below', -⟩
    · rw [edit_eq_none_of_ends apart.symm sound' sound stores' ends inside] at sets
      cases sets
    · have early := early_of_crosses apart sound' (.inl passes) below
      exact ⟨passed, sound.passes_of_early early, rfl⟩
    · -- Nothing is below both records.
      have within := List.prefix_of_prefix_length_le below below'
        (by simp [Store.recordPlace, Store.recordNames])
      exact absurd ((List.prefix_append_right_inj _).mp within) (apart.not_prefix _ _)

/-- Plans for different records can be followed in either order, and all inside `contracts` comes to
the same. -/
theorem commute {before middle after : Tree} (closed : before.IsClosed)
    (one : plan.Stores store before middle) (two : other.Stores store middle after) :
    ∃ middle' after', other.Stores store before middle' ∧ plan.Stores store middle' after' ∧
      ∀ place, store.rootPlace ++ ["contracts"] <+: place →
        after'.node? place = after.node? place := by
  have closedMiddle := one.closed sound closed
  obtain ⟨middle', two'⟩ := two.elsewhere sound' closedMiddle closed (eases_before apart sound sound' one)
  have closedMiddle' := two'.closed sound' closed
  obtain ⟨after', one'⟩ := one.elsewhere sound closed closedMiddle'
    (eases_after apart sound sound' closed one two')
  refine ⟨middle', after', two', one', fun place inside => ?_⟩
  by_cases alone : plan.edit store place = none ∨ other.edit store place = none
  · exact (one.edited sound closed).commute (two.edited sound' closedMiddle)
      (two'.edited sound' closed) (one'.edited sound closedMiddle') alone
  · rw [not_or, ← ne_eq, ← ne_eq, Option.ne_none_iff_exists', Option.ne_none_iff_exists'] at alone
    obtain ⟨⟨node, sets⟩, ⟨node', sets'⟩⟩ := alone
    -- Both plans have passed the place, so that it is a directory in the end.
    obtain ⟨passed, passes, rfl⟩ := passes_of_edits apart sound sound' one two inside sets sets'
    obtain ⟨passed', passes', leads⟩ := passes_of_edits apart.symm sound' sound two one inside sets' sets
    rw [one'.made sound passes, leads, two.made sound' passes']

end Apart

end Plan

end SourceAttest
