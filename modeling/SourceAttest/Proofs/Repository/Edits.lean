import SourceAttest.Proofs.Repository.Filling
import SourceAttest.Proofs.Repository.Writing

/-!
# Edits of a tree

A step of the store that succeeds sets some places, whatever they have held before, and leaves all
others alone. The main results are `Written.edited` and `edited_of_deletePartial`, which say so of
writing and of removing, `Written.growsInto`, by which writing takes nothing away, and `Written.elsewhere`,
by which files that could be written over one tree can be written over another one that has no more in
their way.
-/
namespace SourceAttest

/-- What is set at places: a node, or nothing at all. Other places are left alone. -/
abbrev Edit := Place → Option (Option Node)

namespace Edit

def keep : Edit := fun _ => none

def andThen (first second : Edit) : Edit := fun place => (second place).or (first place)

/-- A file is put where some names lead, below directories. -/
def writing (names : List String) (content : List UInt8) : Edit := fun place =>
  if place = Place.follow [] names then some (some (.file content))
  else if place ∈ names.dropLast.inits.map (Place.follow []) then some (some .directory)
  else none

/-- A partial record is emptied. It goes itself, unless the way to the root leads through it. -/
def removal (store : Store) (chain address : String) : Edit := fun place =>
  if Tree.isInside (store.recordPlace .partly chain address) place then some none
  else if place = store.recordPlace .partly chain address ∧
      ∀ passed ∈ store.rootNames.inits,
        Tree.isInside (store.recordPlace .partly chain address) (Place.follow [] passed) = false then
    some none
  else none

def ofFile (store : Store) (path : Path) (artifact : Artifact) : Edit :=
  match artifact.bytes? with
  | .ok content => writing (Tree.namesFrom store.here path) content
  | .error _ => keep

def ofFiles (store : Store) : List (Path × Artifact) → Edit
  | [] => keep
  | (path, artifact) :: rest => (ofFile store path artifact).andThen (ofFiles store rest)

variable {store : Store} {place : Place} {node : Option Node}

theorem andThen_cases {first second : Edit} (sets : first.andThen second place = some node) :
    first place = some node ∨ second place = some node := by
  rw [andThen, Option.or_eq_some_iff] at sets
  exact sets.symm.imp_left And.right

theorem writing_cases {names : List String} {content : List UInt8}
    (sets : writing names content place = some node) :
    place = Place.follow [] names ∧ node = some (.file content) ∨
    ∃ passed, passed <+: names.dropLast ∧ place = Place.follow [] passed ∧ node = some .directory := by
  rw [writing] at sets
  split_ifs at sets with here onTheWay
  · exact .inl ⟨here, (Option.some.inj sets).symm⟩
  · obtain ⟨passed, isPrefix, leads⟩ := List.mem_map.mp onTheWay
    exact .inr ⟨passed, (List.mem_inits _ _).mp isPrefix, leads.symm, (Option.some.inj sets).symm⟩

theorem removal_cases {chain address : String} (sets : removal store chain address place = some node) :
    store.recordPlace .partly chain address <+: place ∧ node = none := by
  rw [removal] at sets
  split_ifs at sets with inside here
  · exact ⟨((Tree.isInside_iff _ _).mp inside).1, (Option.some.inj sets).symm⟩
  · exact ⟨here.1 ▸ List.prefix_refl _, (Option.some.inj sets).symm⟩

theorem ofFile_cases {path : Path} {artifact : Artifact}
    (sets : ofFile store path artifact place = some node) :
    (place = path.resolved store.here ∧ ∃ content, node = some (.file content)) ∨
    ∃ passed, passed <+: (Tree.namesFrom store.here path).dropLast ∧
      place = Place.follow [] passed ∧ node = some .directory := by
  rw [ofFile] at sets
  cases readable : artifact.bytes? with
  | error fault =>
    rw [readable] at sets
    cases sets
  | ok content =>
    rw [readable] at sets
    exact (writing_cases sets).imp_left fun ⟨leads, held⟩ => ⟨leads, content, held⟩

/-- Files set their own places and those of the directories above them. -/
theorem ofFiles_cases {files : List (Path × Artifact)} (sets : ofFiles store files place = some node) :
    ∃ file ∈ files,
      (place = file.1.resolved store.here ∧ ∃ content, node = some (.file content)) ∨
      ∃ passed, passed <+: (Tree.namesFrom store.here file.1).dropLast ∧
        place = Place.follow [] passed ∧ node = some .directory := by
  induction files with
  | nil => cases sets
  | cons file rest ih =>
    rcases andThen_cases sets with here | later
    · exact ⟨file, List.mem_cons_self, ofFile_cases here⟩
    · obtain ⟨other, member, cases⟩ := ih later
      exact ⟨other, List.mem_cons_of_mem _ member, cases⟩

end Edit

namespace Tree

/-! ### What is set -/

/-- One tree has come of another one by an edit. -/
def Edited (edit : Edit) (before after : Tree) : Prop :=
  ∀ place, after.node? place = (edit place).getD (before.node? place)

variable {first second : Edit} {before middle after middle' after' : Tree} {names : List String}
  {content : List UInt8}

theorem Edited.keep (tree : Tree) : tree.Edited .keep tree := fun _ => rfl

theorem Edited.andThen (one : before.Edited first middle) (other : middle.Edited second after) :
    before.Edited (first.andThen second) after := by
  intro place
  rw [other, one, Edit.andThen]
  cases second place with
  | none => rfl
  | some node => rfl

/-- One edit of two trees sets a place in both, or leaves it alone in both. -/
theorem Edited.both {goal goal' : Tree} (one : before.Edited first goal)
    (other : middle.Edited first goal') (place : Place) :
    goal'.node? place = goal.node? place ∨
      goal.node? place = before.node? place ∧ goal'.node? place = middle.node? place := by
  rw [one, other]
  cases first place with
  | none => exact .inr ⟨rfl, rfl⟩
  | some node => exact .inl rfl

/-- An edit that is made again changes nothing. -/
theorem Edited.again {goal later last : Tree} (one : before.Edited first goal)
    (other : later.Edited first last) (same : ∀ place, later.node? place = goal.node? place)
    (place : Place) : last.node? place = goal.node? place := by
  rcases one.both other place with set | ⟨-, kept⟩
  · exact set
  · rw [kept, same]

/-- Two edits come to the same in either order at a place that one of them leaves alone. -/
theorem Edited.commute (one : before.Edited first middle) (two : middle.Edited second after)
    (two' : before.Edited second middle') (one' : middle'.Edited first after') {place : Place}
    (apart : first place = none ∨ second place = none) : after'.node? place = after.node? place := by
  rw [two, one, one', two']
  rcases apart with kept | kept <;> simp [kept]

theorem Writes.edited (writes : Writes names content before after) :
    before.Edited (.writing names content) after := by
  intro place
  rw [Edit.writing]
  split_ifs with here onTheWay
  · rw [here, writes.holds]
    rfl
  · obtain ⟨passed, isPrefix, rfl⟩ := List.mem_map.mp onTheWay
    exact writes.allDirectories passed ((List.mem_inits _ _).mp isPrefix)
  · refine writes.node?_of_off here fun passed isPrefix leads => onTheWay ?_
    exact List.mem_map.mpr ⟨passed, (List.mem_inits _ _).mpr isPrefix, leads.symm⟩

/-! ### What stays -/

/-- Directories stay directories, and files stay files. -/
structure GrowsInto (before after : Tree) : Prop where
  directories : ∀ place, before.node? place = some .directory → after.node? place = some .directory
  files : ∀ place content, before.node? place = some (.file content) →
    ∃ other, after.node? place = some (.file other)

theorem GrowsInto.refl (tree : Tree) : tree.GrowsInto tree :=
  ⟨fun _ => id, fun _ content file => ⟨content, file⟩⟩

theorem GrowsInto.trans (first : before.GrowsInto middle) (second : middle.GrowsInto after) :
    before.GrowsInto after := by
  refine ⟨fun place isDirectory => second.directories place (first.directories place isDirectory),
    fun place content file => ?_⟩
  obtain ⟨other, file'⟩ := first.files place content file
  exact second.files place other file'

theorem GrowsInto.allDirectories {place : Place} (grows : before.GrowsInto after)
    (all : before.AllDirectories place names) : after.AllDirectories place names :=
  fun passed onTheWay => grows.directories _ (all passed onTheWay)

/-- Writing one file extends a tree, unless it takes the place of a directory. -/
theorem Writes.growsInto (writes : Writes names content before after)
    (noDirectory : before.node? (Place.follow [] names) ≠ some .directory) :
    before.GrowsInto after := by
  constructor
  · intro place isDirectory
    have different : place ≠ Place.follow [] names := fun same => noDirectory (same ▸ isDirectory)
    rcases writes.others place different with same | ⟨absent, _⟩
    · rw [same, isDirectory]
    · rw [absent] at isDirectory
      cases isDirectory
  · intro place other file
    by_cases here : place = Place.follow [] names
    · exact ⟨content, here ▸ writes.holds⟩
    · rcases writes.others place here with same | ⟨absent, _⟩
      · exact ⟨other, same.trans file⟩
      · rw [absent] at file
        cases file

end Tree

namespace Store

open SourceAttest.Tree

variable {store : Store} {before after : Tree}

theorem edited_of_write {path result : Path} {artifact : Artifact}
    (writes : store.write path artifact before = (.ok result, after)) :
    before.Edited (.ofFile store path artifact) after := by
  obtain ⟨content, readable, wrote⟩ := writes_of_write writes
  rw [Edit.ofFile, readable]
  exact wrote.edited

theorem growsInto_of_write {path result : Path} {artifact : Artifact}
    (writes : store.write path artifact before = (.ok result, after)) : before.GrowsInto after := by
  obtain ⟨_, -, wrote⟩ := writes_of_write writes
  exact wrote.growsInto (admits_of_write writes).noDirectory

namespace Written

variable {files : List (Path × Artifact)}

theorem edited (written : store.Written files before after) :
    before.Edited (.ofFiles store files) after := by
  induction written with
  | none tree => exact .keep tree
  | next writes _ ih => exact (edited_of_write writes).andThen ih

theorem growsInto (written : store.Written files before after) : before.GrowsInto after := by
  induction written with
  | none tree => exact .refl tree
  | next writes _ ih => exact (growsInto_of_write writes).trans ih

/-- Each of the files could be written, and is there in the end, below directories. -/
theorem held {path : Path} {artifact : Artifact} (written : store.Written files before after)
    (member : (path, artifact) ∈ files) :
    (∃ tree, store.Admits path tree) ∧
      after.AllDirectories [] (namesFrom store.here path).dropLast ∧
      ∃ content, after.node? (path.resolved store.here) = some (.file content) := by
  induction written with
  | none => cases member
  | next writes others ih =>
    rcases List.mem_cons.mp member with same | later
    · cases same
      obtain ⟨_, -, wrote⟩ := writes_of_write writes
      exact ⟨⟨_, admits_of_write writes⟩, others.growsInto.allDirectories wrote.allDirectories,
        others.growsInto.files _ _ wrote.holds⟩
    · exact ih later

end Written

/-- A partial record is found again once it has been emptied if the way to the root leads past it. -/
theorem found_again_iff {chain address : String} (segments : IsSegment chain ∧ IsSegment address)
    (occupied : before.node? (store.recordPlace .partly chain address) = some .directory)
    (found : before.walk [] (store.rootNames ++ recordNames .partly chain address)
      = .ok (store.recordPlace .partly chain address)) :
    (before.clear (store.recordPlace .partly chain address)).walk []
        (store.rootNames ++ recordNames .partly chain address)
        = .ok (store.recordPlace .partly chain address) ↔
      ∀ passed ∈ store.rootNames.inits,
        isInside (store.recordPlace .partly chain address) (Place.follow [] passed) = false := by
  constructor
  · intro again passed listed
    have cleared : (before.clear (store.recordPlace .partly chain address)).node?
        (store.recordPlace .partly chain address) = some .directory := by
      rw [node?_clear, if_neg (by simp [isInside]), occupied]
    have held := allDirectories_of_walk again cleared passed
      (((List.mem_inits _ _).mp listed).trans (List.prefix_append _ _))
    rw [node?_clear] at held
    split_ifs at held with within
    simpa using within
  · intro aside
    rw [before.walk_clear, found]
    intro passed onTheWay
    rw [← Bool.not_eq_true]
    intro within
    have early := store.early_of_inside segments onTheWay within
    rw [aside passed ((List.mem_inits _ _).mpr early)] at within
    cases within

theorem edited_of_deletePartial {chain address : String} {root : Place} (closed : before.IsClosed)
    (segments : IsSegment chain ∧ IsSegment address)
    (walked : before.walk [] store.rootNames = .ok root)
    (isDirectory : before.node? root = some .directory)
    (returned : store.deletePartial chain address before = (.ok (), after)) :
    before.Edited (.removal store chain address) after := by
  have below : store.recordPlace .partly chain address ≠ [] := by simp [recordPlace, recordNames]
  have emptied (place : Place)
      (inside : isInside (store.recordPlace .partly chain address) place = true) :
      after.node? place = none :=
    store.emptied_of_deletePartial closed segments walked isDirectory returned inside
  -- All inside the record is gone in any case. What differs is what becomes of its own directory.
  intro place
  rw [Edit.removal]
  cases store.removes_of_deletePartial closed segments walked isDirectory returned with
  | absent missing lost =>
    split_ifs with inside here
    · exact emptied place inside
    · rw [here.1, missing]
      rfl
    · rfl
  | emptied occupied found lost =>
    split_ifs with inside here
    · exact emptied place inside
    · cases lost.symm.trans ((found_again_iff segments occupied found).mpr here.2)
    · rw [node?_clear, if_neg inside]
      rfl
  | removed occupied found again =>
    split_ifs with inside here
    · exact emptied place inside
    · rw [here.1, node?_remove _ below, if_pos rfl]
      rfl
    · have different : place ≠ store.recordPlace .partly chain address := fun same =>
        here ⟨same, (found_again_iff segments occupied found).mp again⟩
      rw [node?_remove _ below, if_neg different, node?_clear, if_neg inside]
      rfl

/-! ### Over another tree -/

/-- A second tree has no more in the way than a first one: no file where only directories may be, no
directory where a file is to be, and the directories that are not made when they are missing. -/
structure Eases (store : Store) (ways : List String → Prop) (ends : Place → Prop)
    (first second : Tree) : Prop where
  ways : ∀ passed, ways passed → ∀ content,
    second.node? (Place.follow [] passed) = some (.file content) →
    ∃ other, first.node? (Place.follow [] passed) = some (.file other)
  ends : ∀ place, ends place → second.node? place = some .directory →
    first.node? place = some .directory
  grounds : store.root.anchor = .here → ∀ passed, passed <+: store.here.dropLast →
    first.node? (Place.follow [] passed) = some .directory →
    second.node? (Place.follow [] passed) = some .directory

/-- The ways and the ends that are looked at are those of a path of the store, among others. -/
structure Concerns (store : Store) (ways : List String → Prop) (ends : Place → Prop) (path : Path) :
    Prop where
  ways : ∀ passed, passed <+: (namesFrom store.here path).dropLast → ways passed
  ends : ends (path.resolved store.here)
  anchored : path.anchor = store.root.anchor

variable {ways : List String → Prop} {ends : Place → Prop} {first second first' second' : Tree}

/-- What is done to both trees does not stand in the way of what follows. -/
theorem Eases.edited {edit : Edit} (eases : store.Eases ways ends first second)
    (one : first.Edited edit first') (other : second.Edited edit second') :
    store.Eases ways ends first' second' := by
  refine ⟨fun passed crossed content file => ?_, fun place ended isDirectory => ?_,
    fun relative passed onTheWay isDirectory => ?_⟩
  · rcases one.both other (Place.follow [] passed) with same | ⟨kept, kept'⟩
    · exact ⟨content, same ▸ file⟩
    · rw [kept]
      exact eases.ways passed crossed content (kept' ▸ file)
  · rcases one.both other place with same | ⟨kept, kept'⟩
    · exact same ▸ isDirectory
    · rw [kept]
      exact eases.ends place ended (kept' ▸ isDirectory)
  · rcases one.both other (Place.follow [] passed) with same | ⟨kept, kept'⟩
    · rw [same, isDirectory]
    · rw [kept']
      exact eases.grounds relative passed onTheWay (kept ▸ isDirectory)

theorem Eases.isOpen {names : List String} (eases : store.Eases ways ends first second)
    (crossed : ∀ passed, passed <+: names → ways passed) (free : first.IsOpen [] names) :
    second.IsOpen [] names := by
  intro passed onTheWay content file
  obtain ⟨other, file'⟩ := eases.ways passed (crossed passed onTheWay) content file
  exact free passed onTheWay other file'

theorem Admits.ease {path : Path} (admits : store.Admits path first)
    (eases : store.Eases ways ends first second) (concerns : store.Concerns ways ends path) :
    store.Admits path second :=
  ⟨admits.fits, admits.named, admits.aside,
    fun relative passed onTheWay => eases.grounds (concerns.anchored ▸ relative) passed onTheWay
      (admits.grounded relative passed onTheWay),
    eases.isOpen concerns.ways admits.free,
    fun isDirectory => admits.noDirectory (eases.ends _ concerns.ends isDirectory)⟩

/-- A file that could be written over the first tree can be written over the second one. -/
theorem write_over {path result : Path} {artifact : Artifact}
    (writes : store.write path artifact first = (.ok result, first')) (closed : second.IsClosed)
    (eases : store.Eases ways ends first second) (concerns : store.Concerns ways ends path) :
    ∃ second', store.write path artifact second = (.ok path, second') ∧ second'.IsClosed ∧
      store.Eases ways ends first' second' := by
  obtain ⟨content, readable, -⟩ := writes_of_write writes
  obtain ⟨second', writes'⟩ :=
    write_of_admits closed ((admits_of_write writes).ease eases concerns) readable
  obtain ⟨_, -, wrote'⟩ := writes_of_write writes'
  exact ⟨second', writes', wrote'.closed closed,
    eases.edited (edited_of_write writes) (edited_of_write writes')⟩

theorem Written.elsewhere {files : List (Path × Artifact)} (written : store.Written files first first')
    (closed : second.IsClosed) (eases : store.Eases ways ends first second)
    (concerns : ∀ file ∈ files, store.Concerns ways ends file.1) :
    ∃ second', store.Written files second second' := by
  induction written generalizing second with
  | none => exact ⟨second, .none second⟩
  | next writes _ ih =>
    obtain ⟨concern, others⟩ := List.forall_mem_cons.mp concerns
    obtain ⟨_, writes', closed', eases'⟩ := write_over writes closed eases concern
    obtain ⟨last, written'⟩ := ih closed' eases' others
    exact ⟨last, .next writes' written'⟩

end Store

end SourceAttest
