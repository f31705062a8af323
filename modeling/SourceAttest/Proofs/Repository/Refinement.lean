import SourceAttest.Proofs.Outcome
import SourceAttest.Proofs.Repository.Filling
import SourceAttest.Proofs.Repository.Removal

/-!
# The store as a map

A repository that starts empty is used by saving files, by saving documents and by removing partial
records. All that can be seen of it afterwards are its files, and these are a map from places to
contents: a save binds one place, and a removal takes one record away. A step that fails changes
nothing, but for one kind of failure: a text without an encoding is noticed only when its file is open,
and then the file is empty. The main result is `refines_of_trace`, for steps of any number.
-/
namespace SourceAttest

open SourceAttest.Tree

/-- What is saved: a text, which may lack halves of characters, or bytes. -/
inductive Content where
  | text (characters : String)
  | unpaired (halves : UnpairedText)
  | bytes (data : List UInt8)
deriving Repr, DecidableEq

namespace Content

def artifact : Content → Artifact
  | .text characters => .value (.string characters)
  | .unpaired halves => .value (.unpaired halves)
  | .bytes data => .bytes data

/-- A text has an encoding unless half a character in it lacks the other half. -/
def isEncodable : Content → Bool
  | .unpaired _ => false
  | _ => true

/-- The bytes that a content leaves in its file, none if it has no encoding. -/
def kept : Content → List UInt8
  | .text characters => characters.toUTF8.toList
  | .unpaired _ => []
  | .bytes data => data

theorem refusal?_artifact (content : Content) : content.artifact.refusal? = none := by
  cases content <;> rfl

/-- Only what has an encoding has bytes. -/
theorem bytes?_artifact_eq_ok {content : Content} {bytes : List UInt8}
    (readable : content.artifact.bytes? = .ok bytes) :
    content.isEncodable = true ∧ bytes = content.kept := by
  cases content with
  | unpaired halves => cases readable
  | _ =>
    cases readable
    exact ⟨rfl, rfl⟩

theorem eq_unpaired_of_artifact {content : Content} {text : UnpairedText}
    (same : content.artifact = .value (.unpaired text)) : content = .unpaired text := by
  cases content with
  | unpaired halves =>
    cases same
    rfl
  | _ => cases same

end Content

/-- One use of a store. A file name and the path of a document are names joined by slashes, and the
path may start with slashes. -/
inductive Operation where
  | save (quality : Quality) (chain address : String) (isSource : Bool) (names : List String)
      (content : Content)
  | saveAt (slashes : Nat) (names : List String) (content : Content)
  | deletePartial (chain address : String)
deriving Repr, DecidableEq

/-- Files by their places. -/
abbrev Files := Place → Option (List UInt8)

/-- The files after one has been written. -/
def Files.put (files : Files) (place : Place) (content : List UInt8) : Files := fun other =>
  if other = place then some content else files other

namespace Operation

/-! ### Operations on the tree and on the map -/

def target (quality : Quality) (chain address : String) (isSource : Bool) (names : List String) :
    StorageTarget :=
  ⟨quality, chain, address, "/".intercalate names, isSource⟩

def documentText (slashes : Nat) (names : List String) : String :=
  String.ofList (List.replicate slashes '/') ++ "/".intercalate names

def run (store : Store) (operation : Operation) (tree : Tree) : Except Fault Unit × Tree :=
  match operation with
  | save quality chain address isSource names content =>
    let saved := store.save (target quality chain address isSource names) content.artifact tree
    (saved.1.map fun _ => (), saved.2)
  | saveAt slashes names content =>
    let saved := store.saveAt (documentText slashes names) content.artifact tree
    (saved.1.map fun _ => (), saved.2)
  | deletePartial chain address => store.deletePartial chain address tree

/-- The names that lead from the root of the repository to the file that is saved, or to the record
that is removed. -/
def route : Operation → List String
  | save quality chain address isSource names _ =>
    Store.recordNames quality chain address ++ (if isSource then ["sources"] else []) ++ names
  | saveAt _ names _ => names
  | deletePartial chain address => Store.recordNames .partly chain address

/-- The place of that file or record. -/
def place (store : Store) (operation : Operation) : Place := store.rootPlace ++ operation.route

/-- What an operation saves, if it saves anything. -/
def content? : Operation → Option Content
  | save _ _ _ _ _ content | saveAt _ _ content => some content
  | deletePartial _ _ => none

/-- What an operation does to a map of files: it binds a place, or leaves out what is inside one. -/
def rebind (store : Store) (operation : Operation) (files : Files) : Files :=
  match operation with
  | save _ _ _ _ _ content | saveAt _ _ content => files.put (operation.place store) content.kept
  | deletePartial _ _ => fun place =>
    if isInside (operation.place store) place then none else files place

/-! ### Ordinary operations -/

def path (store : Store) : Operation → Path
  | save quality chain address isSource names _ =>
    store.targetPath (target quality chain address isSource names)
  | saveAt slashes names _ => store.documentPath (documentText slashes names)
  | deletePartial chain address => Store.recordDirectory store.root .partly chain address

/-- Chain, address and all names are single ordinary names. -/
def IsOrdinary : Operation → Prop
  | save _ chain address _ names _ =>
    (IsSegment chain ∧ IsSegment address) ∧ names ≠ [] ∧ ∀ name ∈ names, IsSegment name
  | saveAt _ names _ => names ≠ [] ∧ ∀ name ∈ names, IsSegment name
  | deletePartial chain address => IsSegment chain ∧ IsSegment address

instance : DecidablePred IsOrdinary
  | save _ chain address _ names _ => inferInstanceAs (Decidable
      ((IsSegment chain ∧ IsSegment address) ∧ names ≠ [] ∧ ∀ name ∈ names, IsSegment name))
  | saveAt _ names _ => inferInstanceAs (Decidable (names ≠ [] ∧ ∀ name ∈ names, IsSegment name))
  | deletePartial chain address =>
    inferInstanceAs (Decidable (IsSegment chain ∧ IsSegment address))

variable {operation : Operation}

theorem plain_of_segments {names : List String} (segments : ∀ name ∈ names, IsSegment name) :
    ".." ∉ names := fun up => (segments _ up).2.2.1 rfl

theorem route_of_isOrdinary (ordinary : operation.IsOrdinary) :
    operation.route ≠ [] ∧ ".." ∉ operation.route := by
  cases operation with
  | save quality chain address isSource names content =>
    obtain ⟨segments, some, each⟩ := ordinary
    refine ⟨by simp [route, some], ?_⟩
    simp only [route, List.mem_append, not_or]
    exact ⟨⟨Store.plain_recordNames segments, by cases isSource <;> decide⟩, plain_of_segments each⟩
  | saveAt slashes names content => exact ⟨ordinary.1, plain_of_segments ordinary.2⟩
  | deletePartial chain address =>
    exact ⟨by simp [route, Store.recordNames], Store.plain_recordNames ordinary⟩

/-- The slashes that a path starts with are left out. -/
theorem dropWhile_documentText (slashes : Nat) {names : List String}
    (segments : ∀ name ∈ names, IsSegment name) :
    (documentText slashes names).toList.dropWhile (· = '/') = ("/".intercalate names).toList := by
  have slashed : ∀ c ∈ List.replicate slashes '/', decide (c = '/') = true := by
    intro c member
    rw [List.eq_of_mem_replicate member]
    rfl
  have start := Path.head?_intercalate segments
  rw [documentText, String.toList_append, String.toList_ofList,
    List.dropWhile_append_of_pos slashed]
  cases letters : ("/".intercalate names).toList with
  | nil => rfl
  | cons c more =>
    rw [letters, List.head?_cons, ne_eq, Option.some.injEq] at start
    rw [List.dropWhile_cons_of_neg (by simpa using start)]

theorem documentPath_documentText (store : Store) (slashes : Nat) {names : List String}
    (segments : ∀ name ∈ names, IsSegment name) :
    store.documentPath (documentText slashes names) = store.root.join ("/".intercalate names) := by
  rw [Store.documentPath, dropWhile_documentText slashes segments, String.ofList_toList]

theorem namesFrom_documentText (store : Store) (slashes : Nat) {names : List String} (some : names ≠ [])
    (segments : ∀ name ∈ names, IsSegment name) :
    namesFrom store.here (store.documentPath (documentText slashes names))
      = store.rootNames ++ names := by
  have read := Path.ofString_intercalate segments some
  rw [documentPath_documentText store slashes segments, Path.namesFrom_join _ _ (by rw [read]), read]
  rfl

theorem namesFrom_path (store : Store) (ordinary : operation.IsOrdinary) :
    namesFrom store.here (operation.path store) = store.rootNames ++ operation.route := by
  cases operation with
  | save quality chain address isSource names content =>
    obtain ⟨segments, some, each⟩ := ordinary
    have read := Path.ofString_intercalate each some
    have names := store.namesFrom_targetPath (target quality chain address isSource names) segments
      (by rw [target, read])
    rw [path, names, target, read, route]
    simp only [List.append_assoc]
  | saveAt slashes names content =>
    exact namesFrom_documentText store slashes ordinary.1 ordinary.2
  | deletePartial chain address => exact store.namesFrom_recordDirectory ordinary

theorem resolved_path (store : Store) (ordinary : operation.IsOrdinary) :
    (operation.path store).resolved store.here = operation.place store := by
  rw [Path.resolved, namesFrom_path store ordinary, Place.follow_append,
    Place.follow_of_plain _ _ (route_of_isOrdinary ordinary).2]
  rfl

/-! ### One operation -/

/-- An operation is a removal, or one write of the content that is kept. -/
theorem run_cases (operation : Operation) (store : Store) :
    (∃ chain address, operation = .deletePartial chain address ∧
      ∀ tree, operation.run store tree = store.deletePartial chain address tree) ∨
    ∃ content : Content, operation.content? = some content ∧
      (∀ files, operation.rebind store files = files.put (operation.place store) content.kept) ∧
      ∀ tree, operation.run store tree
        = ((store.write (operation.path store) content.artifact tree).1.map fun _ => (),
          (store.write (operation.path store) content.artifact tree).2) := by
  cases operation with
  | save quality chain address isSource names content =>
    exact .inr ⟨content, rfl, fun _ => rfl, fun _ => rfl⟩
  | saveAt slashes names content => exact .inr ⟨content, rfl, fun _ => rfl, fun _ => rfl⟩
  | deletePartial chain address => exact .inl ⟨chain, address, rfl, fun _ => rfl⟩

/-- How an operation may fail, and which files it leaves. As a fault of the store or at a NUL in a name,
it leaves all files as they were; a text without an encoding has emptied the file that it was for. -/
inductive Fails (store : Store) (operation : Operation) (files : Files) (fault : Fault) : Files → Prop
  | persistence (kind : fault.kind = .persistence) : Fails store operation files fault files
  | nul (held : (operation.path store).hasNul = true) (kind : fault.kind = .value) :
      Fails store operation files fault files
  | unencoded {halves : UnpairedText} (saves : operation.content? = some (.unpaired halves))
      (kind : fault.kind = .encoding) :
      Fails store operation files fault (operation.rebind store files)

end Operation

namespace Store

section

variable {store : Store} {operation : Operation} {tree : Tree}

/-- A record and what is inside it lie inside the root. -/
theorem isInside_root_of_record {quality : Quality} {chain address : String} {place : Place}
    (above : store.recordPlace quality chain address <+: place) :
    isInside store.rootPlace place = true := by
  rw [isInside_iff]
  refine ⟨(List.prefix_append _ _).trans above, fun same => ?_⟩
  have longer := above.length_le
  rw [← same, recordPlace, List.length_append] at longer
  simp [recordNames] at longer

/-- How an operation goes on a tree: as on the map of its files, or it fails. -/
structure Refines (store : Store) (operation : Operation) (tree : Tree) : Prop where
  returned : (operation.run store tree).1 = .ok () →
    (operation.run store tree).2.file? = operation.rebind store tree.file? ∧
      ∀ content, operation.content? = some content → content.isEncodable = true
  failed : ∀ fault, (operation.run store tree).1 = .error fault →
    operation.Fails store tree.file? fault (operation.run store tree).2.file?
  /-- Removing a record that is not there is no fault and changes nothing, if the file system admits its
  path and no file is in its way. -/
  spared : ∀ chain address, operation = .deletePartial chain address →
    (operation.path store).Fits store.here → tree.node? (operation.place store) = none →
    tree.IsOpen [] (store.rootNames ++ operation.route) → operation.run store tree = (.ok (), tree)

/-- Nothing is inside the root of the repository. It is there, or its path does not go up. -/
structure IsEmpty (store : Store) (tree : Tree) : Prop where
  closed : tree.IsClosed
  none : ∀ place, isInside store.rootPlace place = true → tree.node? place = Option.none
  leads : tree.walk [] store.rootNames = .ok store.rootPlace ∧
      tree.node? store.rootPlace = some .directory ∨
    ".." ∉ store.rootNames

/-- The way to the root does not lead through the repository, and a file of the repository can be
reached through the root. -/
structure IsSound (store : Store) (tree : Tree) : Prop where
  closed : tree.IsClosed
  aside : ∀ passed, passed <+: store.rootNames →
    isInside store.rootPlace (Place.follow [] passed) = false
  rooted : ∀ place, isInside store.rootPlace place = true → tree.file? place ≠ none →
    tree.walk [] store.rootNames = .ok store.rootPlace

theorem IsEmpty.isSound (empty : store.IsEmpty tree) : store.IsSound tree := by
  refine ⟨empty.closed, fun passed onTheWay => ?_, fun place inside held => ?_⟩
  · rcases empty.leads with ⟨walked, isDirectory⟩ | plain
    · -- What is on the way is there, and nothing inside the root is.
      have passes := allDirectories_of_walk walked isDirectory passed onTheWay
      rw [← Bool.not_eq_true]
      intro inside
      rw [empty.none _ inside] at passes
      cases passes
    · rw [← Bool.not_eq_true, isInside_iff, rootPlace, Place.follow_of_plain _ _ plain,
        Place.follow_of_plain _ _ fun up => plain (onTheWay.subset up)]
      rintro ⟨above, different⟩
      exact different (above.eq_of_length_le onTheWay.length_le)
  · rw [file?, empty.none place inside] at held
    exact absurd rfl held

theorem IsSound.bypasses (sound : store.IsSound tree) (quality : Quality) (chain address : String) :
    store.Bypasses (store.recordPlace quality chain address) := by
  intro passed onTheWay above
  have inside := isInside_root_of_record above
  rw [sound.aside passed onTheWay] at inside
  cases inside

/-! ### What each step keeps -/

theorem above_of_isInside {place : Place} (closed : tree.IsClosed)
    (inside : isInside store.rootPlace place = true) (held : tree.file? place ≠ none) :
    tree.node? store.rootPlace = some .directory := by
  obtain ⟨⟨names, rfl⟩, different⟩ := (isInside_iff _ _).mp inside
  refine closed.above _ names (by simpa using different) fun absent => held ?_
  rw [file?, absent]

/-- What leaves directories and files alone leaves a repository sound. -/
theorem IsSound.of_kept {after : Tree} (sound : store.IsSound tree)
    (closed : tree.IsClosed → after.IsClosed)
    (files : ∀ place, after.file? place ≠ none → tree.file? place ≠ none)
    (way : ∀ passed, passed <+: store.rootNames →
      tree.node? (Place.follow [] passed) = some .directory →
      after.node? (Place.follow [] passed) = tree.node? (Place.follow [] passed)) :
    store.IsSound after := by
  refine ⟨closed sound.closed, sound.aside, fun place inside held => ?_⟩
  have walked := sound.rooted place inside (files place held)
  have isDirectory := above_of_isInside sound.closed inside (files place held)
  -- Everything on the way to the root is a directory.
  have directories := allDirectories_of_walk walked isDirectory
  rw [walk_congr fun passed onTheWay => way passed onTheWay (directories passed onTheWay)]
  exact walked

theorem IsSound.write {path : Path} {route : List String} (sound : store.IsSound tree)
    (names : namesFrom store.here path = store.rootNames ++ route) (some : route ≠ [])
    (artifact : Artifact) : store.IsSound (store.write path artifact tree).2 := by
  rcases store.cases_of_write path artifact tree with grows | ⟨content, writes⟩
  · refine sound.of_kept grows.closed (fun place held => grows.file?_eq place ▸ held) ?_
    intro passed _ isDirectory
    rcases grows.each (Place.follow [] passed) with same | ⟨absent, _⟩
    · exact same
    · rw [absent] at isDirectory
      cases isDirectory
  · rw [names] at writes
    refine ⟨writes.closed sound.closed, sound.aside, fun _ _ _ => ?_⟩
    -- The file was reached through the root.
    obtain ⟨parent, walked, _⟩ := writes.walks
    rw [List.dropLast_append_of_ne_nil some] at walked
    exact (walk_of_walk_append walked).1

theorem IsSound.deletePartial {chain address : String} (sound : store.IsSound tree)
    (segments : IsSegment chain ∧ IsSegment address) :
    store.IsSound (store.deletePartial chain address tree).2 := by
  have clears := clears_of_deletePartial store chain address tree
    (resolved_recordDirectory_ne_nil store chain segments.2)
  rw [store.resolved_recordDirectory segments] at clears
  refine sound.of_kept clears.closed (fun place held gone => held ?_) fun passed onTheWay _ => ?_
  · rcases clears.each place with same | ⟨_, absent, _⟩
    · exact (file?_of_node? same).trans gone
    · rw [file?, absent]
  · rcases clears.each (Place.follow [] passed) with same | ⟨above, _⟩
    · exact same
    · exact absurd above (sound.bypasses .partly chain address passed onTheWay)

/-- An ordinary operation leaves a sound repository, whatever comes of it. -/
theorem IsSound.run (sound : store.IsSound tree) (ordinary : operation.IsOrdinary) :
    store.IsSound (operation.run store tree).2 := by
  rcases operation.run_cases store with ⟨chain, address, rfl, runs⟩ | ⟨content, -, -, runs⟩
  · rw [runs]
    exact sound.deletePartial ordinary
  · rw [runs]
    exact sound.write (Operation.namesFrom_path store ordinary)
      (Operation.route_of_isOrdinary ordinary).1 content.artifact

/-! ### What each step does -/

theorem file?_of_writes {path : Path} {content : List UInt8} {after : Tree}
    (writes : Writes (namesFrom store.here path) content tree after) :
    after.file? = Files.put tree.file? (path.resolved store.here) content := by
  funext place
  unfold Files.put
  split_ifs with same
  · exact same ▸ writes.file?_self
  · exact writes.file?_of_ne same

/-- A NUL in the directory of a file is one in its path. -/
theorem hasNul_of_parent {path : Path} (held : path.parent.hasNul = true) : path.hasNul = true := by
  rw [Path.hasNul_eq, List.any_eq_true] at held ⊢
  obtain ⟨name, member, holds⟩ := held
  exact ⟨name, List.mem_of_mem_dropLast member, holds⟩

theorem kind_of_unopened {path : Path} {content : Content} {fault : Fault}
    (unopened : Unopened path content.artifact fault) :
    fault.kind = .persistence ∨ fault.kind = .value ∧ path.hasNul = true := by
  cases unopened with
  | nul held => exact .inr ⟨rfl, held.elim hasNul_of_parent id⟩
  | system why => exact .inl rfl
  | refused refused => cases content.refusal?_artifact.symm.trans refused

/-- A removal that returns takes away the files of its record. -/
theorem file?_of_deletePartial {chain address : String} {after : Tree} (sound : store.IsSound tree)
    (segments : IsSegment chain ∧ IsSegment address)
    (returned : store.deletePartial chain address tree = (.ok (), after)) :
    after.file? = fun place =>
      if isInside (store.recordPlace .partly chain address) place then none else tree.file? place := by
  have clears := store.clears_record segments returned
  funext place
  split_ifs with inside
  · by_cases held : tree.file? place = none
    · -- Where there was no file, there is none now.
      rcases clears.each place with same | ⟨_, absent, _⟩
      · exact (file?_of_node? same).trans held
      · rw [file?, absent]
    · have inRoot := isInside_root_of_record ((isInside_iff _ _).mp inside).1
      have isDirectory := above_of_isInside sound.closed inRoot held
      rw [file?, store.emptied_of_deletePartial sound.closed segments (sound.rooted place inRoot held)
        isDirectory returned inside]
  · exact clears.file?_of_outside (by simpa using inside)

theorem IsSound.refines_deletePartial {chain address : String} (sound : store.IsSound tree)
    (segments : IsSegment chain ∧ IsSegment address) :
    store.Refines (.deletePartial chain address) tree := by
  cases run : store.deletePartial chain address tree with
  | mk outcome after =>
    have ran : (Operation.deletePartial chain address).run store tree = (outcome, after) := run
    refine ⟨fun returned => ?_, fun fault failed => ?_, fun chain' address' same fits absent free => ?_⟩
    · rw [ran] at returned ⊢
      subst returned
      exact ⟨file?_of_deletePartial sound segments run, nofun⟩
    · rw [ran] at failed ⊢
      subst failed
      obtain ⟨rfl, kind | ⟨rfl, held⟩⟩ :=
        eq_of_failed_deletePartial (sound.bypasses .partly chain address) segments run
      · exact .persistence kind
      · exact .nul held rfl
    · rw [ran, ← run]
      exact deletePartial_of_absent segments fits free absent

theorem refines_save {content : Content} (ordinary : operation.IsOrdinary)
    (saves : operation.content? = some content)
    (binds : ∀ files, operation.rebind store files = files.put (operation.place store) content.kept)
    (runs : operation.run store tree
      = ((store.write (operation.path store) content.artifact tree).1.map fun _ => (),
        (store.write (operation.path store) content.artifact tree).2)) :
    store.Refines operation tree := by
  have noRemoval (chain address : String) : operation ≠ .deletePartial chain address := by
    rintro rfl
    cases saves
  -- A write binds one place on the map, or it fails before or after its file has been opened.
  cases run : store.write (operation.path store) content.artifact tree with
  | mk outcome after =>
    rw [run] at runs
    refine ⟨fun returned => ?_, fun fault failed => ?_, fun chain address same => absurd same
      (noRemoval chain address)⟩
    · rw [runs] at returned ⊢
      obtain ⟨result, rfl, -⟩ := Outcome.map_eq_ok.mp returned
      obtain ⟨written, readable, writes⟩ := writes_of_write run
      obtain ⟨encodable, rfl⟩ := Content.bytes?_artifact_eq_ok readable
      rw [binds, ← Operation.resolved_path store ordinary]
      refine ⟨file?_of_writes writes, fun other same => ?_⟩
      cases saves.symm.trans same
      exact encodable
    · rw [runs] at failed ⊢
      cases outcome with
      | ok result => cases failed
      | error other =>
        cases failed
        rcases cases_of_failed_write run with ⟨unopened, grows⟩ | ⟨text, isText, rfl, writes⟩
        · dsimp only
          rw [funext grows.file?_eq]
          rcases kind_of_unopened unopened with kind | ⟨kind, held⟩
          · exact .persistence kind
          · exact .nul held kind
        · obtain rfl := Content.eq_unpaired_of_artifact isText
          have emptied := file?_of_writes writes
          rw [Operation.resolved_path store ordinary] at emptied
          have left : after.file? = operation.rebind store tree.file? := emptied.trans (binds _).symm
          dsimp only
          rw [left]
          exact .unencoded saves rfl

/-- In a sound repository, every ordinary operation goes as on the map. -/
theorem IsSound.refines (sound : store.IsSound tree) (ordinary : operation.IsOrdinary) :
    store.Refines operation tree := by
  rcases operation.run_cases store with ⟨chain, address, rfl, -⟩ | ⟨content, saves, binds, runs⟩
  · exact sound.refines_deletePartial ordinary
  · exact refines_save ordinary saves binds (runs tree)

/-! ### Runs -/

/-- Ordinary operations one after the other, each with its outcome, from a first tree to a last one. -/
inductive Trace (store : Store) (start : Tree) : List (Operation × Except Fault Unit) → Tree → Prop
  | start : Trace store start [] start
  | step {history : List (Operation × Except Fault Unit)} {operation : Operation} {before : Tree}
      (trace : Trace store start history before) (ordinary : operation.IsOrdinary) :
      Trace store start (history ++ [(operation, (operation.run store before).1)])
        (operation.run store before).2

/-- One step on the map: what returned has its effect, and what failed has none, except that a text
without an encoding has emptied its file. -/
def replayStep (store : Store) (files : Files) : Operation × Except Fault Unit → Files
  | (operation, .ok ()) => operation.rebind store files
  | (operation, .error fault) =>
    if fault.kind = .encoding then operation.rebind store files else files

/-- The map that a history leaves. -/
def replay (store : Store) (history : List (Operation × Except Fault Unit)) (files : Files) : Files :=
  history.foldl store.replayStep files

theorem replay_concat (store : Store) (history : List (Operation × Except Fault Unit))
    (step : Operation × Except Fault Unit) (files : Files) :
    store.replay (history ++ [step]) files = store.replayStep (store.replay history files) step := by
  rw [replay, List.foldl_append]
  rfl

theorem Refines.replayStep_eq (refines : store.Refines operation tree) :
    store.replayStep tree.file? (operation, (operation.run store tree).1)
      = (operation.run store tree).2.file? := by
  cases ended : (operation.run store tree).1 with
  | ok done => exact (refines.returned ended).1.symm
  | error fault =>
    rw [replayStep]
    generalize (operation.run store tree).2.file? = left, refines.failed fault ended = fails
    cases fails with
    | persistence kind => rw [kind, if_neg (by decide)]
    | nul _ kind => rw [kind, if_neg (by decide)]
    | unencoded _ kind => rw [if_pos kind]

theorem isSound_of_trace {start now : Tree} {history : List (Operation × Except Fault Unit)}
    (empty : store.IsEmpty start) (trace : store.Trace start history now) : store.IsSound now := by
  induction trace with
  | start => exact empty.isSound
  | step trace ordinary sound => exact sound.run ordinary

/-- From an empty root on, the files are the map that the steps so far leave, and every further step
goes as on that map: it returns and has its effect, or fails and has none. Only a text without an
encoding does not fail as the store fails, and it leaves an empty file in the place of what was there. -/
theorem refines_of_trace {start now : Tree} {history : List (Operation × Except Fault Unit)}
    (empty : store.IsEmpty start) (trace : store.Trace start history now) :
    now.file? = store.replay history start.file? ∧
    ∀ operation : Operation, operation.IsOrdinary → store.Refines operation now := by
  refine ⟨?_, fun operation ordinary => (isSound_of_trace empty trace).refines ordinary⟩
  induction trace with
  | start => rfl
  | step trace ordinary replayed =>
    rw [replay_concat, ← replayed, ((isSound_of_trace empty trace).refines ordinary).replayStep_eq]

end

/-! ### A repository -/

namespace Sample

def store : Store := ⟨⟨.top, ["repo"]⟩, []⟩

/-- The root is there, and nothing else. -/
def start : Tree := [(["repo"], .directory)]

def source : Operation := .save .partly "1" "0xA" true ["lib", "a.sol"] (.text "contract A")

def document : Operation := .saveAt 1 ["ipfs", "Qm"] (.bytes [1, 2])

/-- The same source, in a text that has half a character. -/
def broken : Operation := .save .partly "1" "0xA" true ["lib", "a.sol"] (.unpaired ⟨[.half 0], rfl⟩)

/-- The same source under a name with a NUL. -/
def unnameable : Operation := .save .partly "1" "0xA" true ["lib", "a\x00.sol"] (.text "contract A")

def removal : Operation := .deletePartial "1" "0xA"

theorem isEmpty_start : store.IsEmpty start := by
  have bound (place : Place) (held : start.node? place ≠ none) : place = [] ∨ place = ["repo"] := by
    by_contra other
    obtain ⟨notTop, notRoot⟩ := not_or.mp other
    rw [node?, if_neg notTop, start, Table.get?, if_neg (Ne.symm notRoot)] at held
    exact held rfl
  refine ⟨isClosed_of_keys (by decide), fun place inside => ?_, .inl ⟨by decide, by decide⟩⟩
  by_contra held
  rcases bound place held with rfl | rfl
  · exact absurd inside (by decide)
  · exact absurd inside (by decide)

end Sample

/-- A source and a document are saved, the source is written over with a text that has no encoding, and
the record with it is removed. -/
theorem refines_of_trace_of_removal :
    Sample.store.IsEmpty Sample.start ∧
    ∃ history now, Sample.store.Trace Sample.start history now ∧
      history.map Prod.fst = [Sample.source, Sample.document, Sample.broken, Sample.removal] ∧
      now.file? = Sample.store.replay history Sample.start.file? ∧
      ∀ operation : Operation, operation.IsOrdinary → Sample.store.Refines operation now := by
  have source : Sample.source.IsOrdinary := by decide
  have document : Sample.document.IsOrdinary := by decide
  have broken : Sample.broken.IsOrdinary := by decide
  have removal : Sample.removal.IsOrdinary := by decide
  have begun : Sample.store.Trace Sample.start [] Sample.start := .start
  have trace := (((begun.step source).step document).step broken).step removal
  exact ⟨Sample.isEmpty_start, _, _, trace, rfl, refines_of_trace Sample.isEmpty_start trace⟩

/-- A source is gone after a save that has not failed as a step of a store does: the text that was to
replace it has no encoding. Nor does a save under a name with a NUL fail so. -/
theorem source_lost_to_unencodable_text :
    Sample.store.IsEmpty Sample.start ∧
    (∀ operation ∈ [Sample.source, Sample.broken, Sample.unnameable], operation.IsOrdinary) ∧
    ∃ saved, Sample.source.run Sample.store Sample.start = (.ok (), saved) ∧
      saved.file? (Sample.source.place Sample.store) = some "contract A".toUTF8.toList ∧
      (∃ fault left, Sample.broken.run Sample.store saved = (.error fault, left) ∧
        fault.kind = .encoding ∧ left.file? (Sample.source.place Sample.store) = some []) ∧
      ∃ fault left, Sample.unnameable.run Sample.store saved = (.error fault, left) ∧
        fault.kind = .value := by
  refine ⟨Sample.isEmpty_start, by decide, _, rfl, ?_, ⟨_, _, rfl, rfl, ?_⟩, _, _, rfl, rfl⟩
  · decide +kernel
  · decide +kernel

end Store

end SourceAttest
