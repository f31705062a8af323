import SourceAttest.Proofs.Base16
import SourceAttest.Proofs.Repository.Steps

/-!
# The places of records and documents

A record lies four names below the root of the repository, and a document lies outside all records.
The main results are `namesFrom_targetPath` and `namesFrom_documentPath`, which give the names of
all files of the store, and `absent_of_deletePartial`, by which nothing is left of a partial record
that was removed.
-/
namespace SourceAttest

/-- A single ordinary name of a path. -/
def IsSegment (text : String) : Prop := text ≠ "" ∧ text ≠ "." ∧ text ≠ ".." ∧ '/' ∉ text.toList

instance (text : String) : Decidable (IsSegment text) :=
  inferInstanceAs (Decidable (text ≠ "" ∧ text ≠ "." ∧ text ≠ ".." ∧ '/' ∉ text.toList))

theorem Quality.isSegment_directory (quality : Quality) : IsSegment quality.directory := by
  cases quality <;> decide

namespace Path

/-! ### Reading names -/

theorem splitSlashes_of_no_slash {cs : List Char} (none : '/' ∉ cs) : splitSlashes cs = [cs] := by
  induction cs with
  | nil => rfl
  | cons c rest ih =>
    simp only [List.mem_cons, not_or] at none
    rw [splitSlashes, if_neg (Ne.symm none.1), ih none.2]

theorem splitSlashes_append_slash {cs : List Char} (none : '/' ∉ cs) (rest : List Char) :
    splitSlashes (cs ++ '/' :: rest) = cs :: splitSlashes rest := by
  induction cs with
  | nil => simp [splitSlashes]
  | cons c more ih =>
    simp only [List.mem_cons, not_or] at none
    rw [List.cons_append, splitSlashes, if_neg (Ne.symm none.1), ih none.2]

theorem mem_of_mem_splitSlashes {cs piece : List Char} (member : piece ∈ splitSlashes cs) {c : Char}
    (inPiece : c ∈ piece) : c ∈ cs := by
  induction cs generalizing piece with
  | nil => simp_all [splitSlashes]
  | cons first rest ih =>
    rw [splitSlashes] at member
    split_ifs at member with slash
    · rcases List.mem_cons.mp member with rfl | later
      · exact absurd inPiece List.not_mem_nil
      · exact List.mem_cons_of_mem _ (ih later inPiece)
    · split at member
      · rw [List.mem_singleton.mp member, List.mem_singleton] at inPiece
        exact inPiece ▸ List.mem_cons_self
      next head pieces split =>
        rcases List.mem_cons.mp member with rfl | later
        · rcases List.mem_cons.mp inPiece with rfl | deeper
          · exact List.mem_cons_self
          · exact List.mem_cons_of_mem _ (ih (split ▸ List.mem_cons_self) deeper)
        · exact List.mem_cons_of_mem _ (ih (split ▸ List.mem_cons_of_mem _ later) inPiece)

theorem anchorOf_eq_here {cs : List Char} (relative : cs.head? ≠ some '/') : anchorOf cs = .here := by
  cases cs with
  | nil => rfl
  | cons c rest =>
    have different : c ≠ '/' := fun same => relative (by rw [same, List.head?_cons])
    simp [anchorOf, different]

theorem isName_of_segment {text : String} (segment : IsSegment text) : isName text.toList = true := by
  have notEmpty : text.toList ≠ [] := fun empty =>
    segment.1 (String.toList_inj.mp (by simpa using empty))
  have notSingle : text.toList ≠ ['.'] := fun dot =>
    segment.2.1 (String.toList_inj.mp (by simpa using dot))
  simp [isName, notEmpty, notSingle]

theorem ofString_segment {text : String} (segment : IsSegment text) :
    ofString text = ⟨.here, [text]⟩ := by
  have noSlash := segment.2.2.2
  -- A segment is one piece, and that piece is a name.
  have relative : text.toList.head? ≠ some '/' := fun first =>
    noSlash (List.mem_of_mem_head? first)
  rw [ofString, anchorOf_eq_here relative, splitSlashes_of_no_slash noSlash]
  simp [isName_of_segment segment]

theorem splitSlashes_intercalate {names : List String} (segments : ∀ name ∈ names, IsSegment name)
    (some : names ≠ []) : splitSlashes ("/".intercalate names).toList = names.map String.toList := by
  induction names with
  | nil => exact absurd rfl some
  | cons name rest ih =>
    obtain ⟨first, others⟩ := List.forall_mem_cons.mp segments
    cases rest with
    | nil => simp [splitSlashes_of_no_slash first.2.2.2]
    | cons next more =>
      have joined : ("/".intercalate (name :: next :: more)).toList
          = name.toList ++ '/' :: ("/".intercalate (next :: more)).toList := by
        rw [String.intercalate_cons_of_ne_nil (by simp)]
        simp
      rw [joined, splitSlashes_append_slash first.2.2.2, ih others (by simp)]
      rfl

theorem head?_intercalate {names : List String} (segments : ∀ name ∈ names, IsSegment name) :
    ("/".intercalate names).toList.head? ≠ some '/' := by
  cases names with
  | nil => simp
  | cons name rest =>
    have first := segments name List.mem_cons_self
    cases letters : name.toList with
    | nil => exact absurd (String.toList_eq_nil_iff.mp letters) first.1
    | cons c more =>
      -- The text starts with the first letter of its first name.
      have start : ("/".intercalate (name :: rest)).toList.head? = some c := by
        cases rest with
        | nil => simp [letters]
        | cons next others =>
          rw [String.intercalate_cons_of_ne_nil (by simp)]
          simp [letters]
      rw [start]
      rintro ⟨⟩
      exact first.2.2.2 (by simp [letters])

/-- Ordinary names that are joined by slashes are read back. -/
theorem ofString_intercalate {names : List String} (segments : ∀ name ∈ names, IsSegment name)
    (some : names ≠ []) : ofString ("/".intercalate names) = ⟨.here, names⟩ := by
  have named : ∀ piece ∈ names.map String.toList, isName piece = true := by
    intro piece member
    obtain ⟨name, inNames, rfl⟩ := List.mem_map.mp member
    exact isName_of_segment (segments name inNames)
  rw [ofString, anchorOf_eq_here (head?_intercalate segments), splitSlashes_intercalate segments some,
    List.filter_eq_self.mpr named]
  simp

theorem namesFrom_join (here : Place) (path : Path) {more : String}
    (relative : (ofString more).anchor = .here) :
    Tree.namesFrom here (path.join more) = Tree.namesFrom here path ++ (ofString more).names := by
  rw [join, append, if_pos relative]
  unfold Tree.namesFrom
  split_ifs <;> simp

theorem namesFrom_join_segment (here : Place) (path : Path) {more : String} (segment : IsSegment more) :
    Tree.namesFrom here (path.join more) = Tree.namesFrom here path ++ [more] := by
  rw [namesFrom_join here path (by rw [ofString_segment segment]), ofString_segment segment]

theorem anchor_join (path : Path) {more : String} (relative : (ofString more).anchor = .here) :
    (path.join more).anchor = path.anchor := by
  rw [join, append, if_pos relative]

theorem anchor_join_segment (path : Path) {more : String} (segment : IsSegment more) :
    (path.join more).anchor = path.anchor :=
  anchor_join path (by rw [ofString_segment segment])

private theorem contains_intercalate (names : List String) :
    ("/".intercalate names).toList.contains '\x00'
      = names.any fun name => name.toList.contains '\x00' := by
  induction names with
  | nil => rfl
  | cons name rest ih =>
    cases rest with
    | nil => simp
    | cons next others =>
      rw [String.intercalate_cons_of_ne_nil (by simp), List.any_cons, ← ih]
      simp

/-- A path holds a NUL exactly if one of its names does. -/
theorem hasNul_eq (path : Path) :
    path.hasNul = path.names.any fun name => name.toList.contains '\x00' := by
  have anchor : path.anchor.text.toList.contains '\x00' = false := by
    cases path.anchor <;> rfl
  rw [hasNul, text]
  split_ifs with empty
  · rw [empty.2]
    rfl
  · rw [← contains_intercalate, String.toList_append, List.contains_append, anchor, Bool.false_or]

end Path

namespace Store

variable (store : Store) {quality : Quality} {chain address : String}

/-- The names that lead to the root of the repository. -/
def rootNames : List String := Tree.namesFrom store.here store.root

/-- The place of the root. -/
def rootPlace : Place := Place.follow [] store.rootNames

/-- The names from the root to a record. -/
def recordNames (quality : Quality) (chain address : String) : List String :=
  ["contracts", quality.directory, chain, address]

/-- The place of a record. -/
def recordPlace (quality : Quality) (chain address : String) : Place :=
  store.rootPlace ++ recordNames quality chain address

/-- The way to the root does not lead through a place. -/
def Bypasses (place : Place) : Prop :=
  ∀ passed, passed <+: store.rootNames → ¬ place <+: Place.follow [] passed

/-! ### Records -/

theorem plain_recordNames (segments : IsSegment chain ∧ IsSegment address) :
    ".." ∉ recordNames quality chain address := by
  have directory := quality.isSegment_directory
  simp only [recordNames, List.mem_cons, List.not_mem_nil, or_false, not_or]
  exact ⟨by decide, Ne.symm directory.2.2.1, Ne.symm segments.1.2.2.1, Ne.symm segments.2.2.2.1⟩

theorem namesFrom_recordDirectory (segments : IsSegment chain ∧ IsSegment address) :
    Tree.namesFrom store.here (recordDirectory store.root quality chain address)
      = store.rootNames ++ recordNames quality chain address := by
  rw [recordDirectory, Path.namesFrom_join_segment _ _ segments.2,
    Path.namesFrom_join_segment _ _ segments.1,
    Path.namesFrom_join_segment _ _ quality.isSegment_directory,
    Path.namesFrom_join_segment _ _ (by decide)]
  simp [recordNames, rootNames]

/-- The names of a file of a record. -/
theorem namesFrom_targetPath (target : StorageTarget)
    (segments : IsSegment target.chain ∧ IsSegment target.address)
    (relative : (Path.ofString target.fileName).anchor = .here) :
    Tree.namesFrom store.here (store.targetPath target)
      = store.rootNames ++ recordNames target.quality target.chain target.address
        ++ (if target.isSource then ["sources"] else []) ++ (Path.ofString target.fileName).names := by
  rw [targetPath, Path.namesFrom_join _ _ relative]
  cases target.isSource
  · rw [if_neg Bool.false_ne_true, if_neg Bool.false_ne_true,
      store.namesFrom_recordDirectory segments, List.append_nil]
  · rw [if_pos rfl, if_pos rfl, Path.namesFrom_join_segment _ _ (by decide),
      store.namesFrom_recordDirectory segments]

/-- A file of a record starts where the root of the repository does. -/
theorem anchor_targetPath (target : StorageTarget)
    (segments : IsSegment target.chain ∧ IsSegment target.address)
    (relative : (Path.ofString target.fileName).anchor = .here) :
    (store.targetPath target).anchor = store.root.anchor := by
  have directory : (recordDirectory store.root target.quality target.chain target.address).anchor
      = store.root.anchor := by
    rw [recordDirectory, Path.anchor_join_segment _ segments.2, Path.anchor_join_segment _ segments.1,
      Path.anchor_join_segment _ target.quality.isSegment_directory,
      Path.anchor_join_segment _ (by decide)]
  rw [targetPath, Path.anchor_join _ relative]
  split
  · rw [Path.anchor_join_segment _ (by decide), directory]
  · exact directory

theorem resolved_recordDirectory (segments : IsSegment chain ∧ IsSegment address) :
    (recordDirectory store.root quality chain address).resolved store.here
      = store.recordPlace quality chain address := by
  rw [Path.resolved, store.namesFrom_recordDirectory segments, Place.follow_append,
    Place.follow_of_plain _ _ (plain_recordNames segments)]
  rfl

/-- The last name of a record is the address, whatever the chain is. -/
theorem resolved_recordDirectory_ne_nil (chain : String) (segment : IsSegment address) :
    (recordDirectory store.root quality chain address).resolved store.here ≠ [] := by
  rw [recordDirectory, Path.resolved, Path.namesFrom_join_segment _ _ segment,
    Place.follow_append, Place.follow_of_plain _ _ (by simp [Ne.symm segment.2.2.1])]
  simp

/-! ### Documents -/

theorem mem_alphabet_of_mem_encode (bytes : List UInt8) {c : Char}
    (member : c ∈ (Base58.encode bytes).toList) : c ∈ Base58.alphabet := by
  have one : '1' ∈ Base58.alphabet := by decide
  -- Every digit is taken out of the alphabet, by its value or by default.
  have digits (n : Nat) : ∀ d ∈ Base58.reversedDigits n, d ∈ Base58.alphabet := by
    induction n using Base58.reversedDigits.induct with
    | case1 => intro d inNone; rw [Base58.reversedDigits] at inNone; simp at inNone
    | case2 n positive ih =>
      intro d inDigits
      rw [Base58.reversedDigits, if_neg positive] at inDigits
      rcases List.mem_cons.mp inDigits with rfl | later
      · rw [Base58.digit, List.getD_eq_getElem?_getD]
        cases found : Base58.alphabet[n % 58]? with
        | none => exact one
        | some digit => exact List.mem_of_getElem? found
      · exact ih d later
  rw [Base58.encode, String.toList_ofList, List.mem_append, List.mem_reverse] at member
  rcases member with zero | digit
  · rw [List.eq_of_mem_replicate zero]
    exact one
  · exact digits _ c digit

private theorem dotless_path (hash : ContentHash) : '.' ∉ hash.path.toList := by
  -- Neither base has a dot among its digits.
  have hex (bytes : List UInt8) : '.' ∉ Base16.encode bytes := by
    intro dot
    exact absurd (Base16.isLow_encode bytes '.' dot) (by decide)
  have base58 (bytes : List UInt8) : '.' ∉ (Base58.encode bytes).toList := by
    intro dot
    exact absurd (mem_alphabet_of_mem_encode bytes dot) (by decide)
  cases hash with
  | bzzr0 bytes => simp [ContentHash.path, hex]
  | bzzr1 bytes => simp [ContentHash.path, hex]
  | ipfs bytes => simp [ContentHash.path, base58]

/-- A path that starts with an ordinary name and holds no dots leads down from there. -/
private theorem ofString_of_first {first : String} (segment : IsSegment first) (rest : List Char)
    (dotless : '.' ∉ rest) :
    ∃ names, Path.ofString (String.ofList (first.toList ++ '/' :: rest)) = ⟨.here, first :: names⟩ ∧
      ".." ∉ names := by
  have plain := Path.ofString_segment segment
  rw [Path.ofString, Path.splitSlashes_of_no_slash segment.2.2.2, Path.mk.injEq] at plain
  have relative : (first.toList ++ '/' :: rest).head? ≠ some '/' := by
    intro slash
    cases letters : first.toList with
    | nil => exact segment.1 (String.toList_inj.mp (by simpa using letters))
    | cons c more =>
      rw [letters, List.cons_append, List.head?_cons, Option.some.injEq] at slash
      exact segment.2.2.2 (by simp [letters, slash])
  refine ⟨((Path.splitSlashes rest).filter Path.isName).map String.ofList, ?_, ?_⟩
  · rw [Path.ofString, String.toList_ofList, Path.anchorOf_eq_here relative,
      Path.splitSlashes_append_slash segment.2.2.2, List.filter_cons]
    have named : Path.isName first.toList = true := by
      by_contra unnamed
      simp [unnamed] at plain
    simp [named]
  -- Double dots would bring a dot into the text.
  · intro up
    obtain ⟨piece, member, dots⟩ := List.mem_map.mp up
    have inPiece : '.' ∈ piece := by
      rw [← String.toList_ofList (l := piece), dots]
      decide
    exact dotless (Path.mem_of_mem_splitSlashes (List.mem_filter.mp member).1 inPiece)

/-- The names of a document start beside the records, and lead down. -/
theorem namesFrom_documentPath (hash : ContentHash) :
    ∃ first names, Tree.namesFrom store.here (store.documentPath hash.path)
        = store.rootNames ++ first :: names ∧
      first ≠ "contracts" ∧ ".." ∉ first :: names := by
  have dotless := dotless_path hash
  -- Behind the leading slash stand one of two names, a slash and digits.
  obtain ⟨first, rest, segment, apart, dotFirst, parts⟩ : ∃ first rest, IsSegment first ∧
      first ≠ "contracts" ∧ first ≠ ".." ∧
      hash.path.toList.dropWhile (· = '/') = first.toList ++ '/' :: rest := by
    cases hash with
    | bzzr0 bytes =>
      exact ⟨"swarm", "bzzr0/".toList ++ Base16.encode bytes, by decide, by decide, by decide,
        by simp [ContentHash.path]⟩
    | bzzr1 bytes =>
      exact ⟨"swarm", "bzzr1/".toList ++ Base16.encode bytes, by decide, by decide, by decide,
        by simp [ContentHash.path]⟩
    | ipfs bytes =>
      exact ⟨"ipfs", (Base58.encode bytes).toList, by decide, by decide, by decide,
        by simp [ContentHash.path]⟩
  have restDotless : '.' ∉ rest := by
    intro dot
    apply dotless
    apply (List.dropWhile_sublist (· = '/')).subset
    rw [parts]
    simp [dot]
  obtain ⟨names, read, plain⟩ := ofString_of_first segment rest restDotless
  refine ⟨first, names, ?_, apart, by simp [Ne.symm dotFirst, plain]⟩
  rw [documentPath, parts, Path.namesFrom_join _ _ (by rw [read]), read]
  rfl

/-! ### Removing a partial record -/

theorem bypasses_of_plain (plain : ".." ∉ store.rootNames) :
    store.Bypasses (store.recordPlace quality chain address) := by
  intro passed onTheWay above
  have plainPassed : ".." ∉ passed := fun up => plain (onTheWay.subset up)
  have short := above.length_le
  have long := onTheWay.length_le
  rw [recordPlace, rootPlace, Place.follow_of_plain _ _ plain,
    Place.follow_of_plain _ _ plainPassed] at short
  simp [recordNames] at short
  omega

/-- Removing a partial record empties its place at most. -/
theorem clears_record {before after : Tree} (segments : IsSegment chain ∧ IsSegment address)
    (removed : store.deletePartial chain address before = (.ok (), after)) :
    Tree.Clears (store.recordPlace .partly chain address) before after := by
  have clears := store.clears_of_deletePartial chain address before
    (store.resolved_recordDirectory_ne_nil chain segments.2)
  rwa [removed, store.resolved_recordDirectory segments] at clears

/-- The way to a place below the root is the way to the root, and then leads down. -/
theorem onTheWay_cases {names passed : List String} (plain : ".." ∉ names)
    (onTheWay : passed <+: store.rootNames ++ names) :
    passed <+: store.rootNames ∨
      ∃ further, further <+: names ∧ Place.follow [] passed = store.rootPlace ++ further := by
  rcases Place.onTheWay_cases onTheWay with early | ⟨further, part, rfl⟩
  · exact .inl early
  · refine .inr ⟨further, part, ?_⟩
    rw [Place.follow_append, Place.follow_of_plain _ _ fun up => plain (part.subset up)]
    rfl

/-- What is inside a record on the way to one is on the way to the root. -/
theorem early_of_inside {other : Quality} {chain' address' : String}
    (segments : IsSegment chain' ∧ IsSegment address') {passed : List String}
    (onTheWay : passed <+: store.rootNames ++ recordNames other chain' address')
    (inside : Tree.isInside (store.recordPlace quality chain address) (Place.follow [] passed) = true) :
    passed <+: store.rootNames := by
  rcases store.onTheWay_cases (plain_recordNames segments) onTheWay with early | ⟨further, part, leads⟩
  · exact early
  · -- The rest of the way is part of the names of a record, and none are longer than others.
    rw [Tree.isInside_iff, leads] at inside
    have whole := (List.prefix_append_right_inj _).mp inside.1
    exact absurd (congrArg _ (whole.eq_of_length_le part.length_le)) inside.2

theorem outside_of_bypasses (bypasses : store.Bypasses (store.recordPlace quality chain address))
    (segments : IsSegment chain ∧ IsSegment address) {passed : List String}
    (onTheWay : passed <+: store.rootNames ++ recordNames quality chain address) :
    Tree.isInside (store.recordPlace quality chain address) (Place.follow [] passed) = false := by
  rw [← Bool.not_eq_true]
  intro inside
  exact bypasses passed (store.early_of_inside segments onTheWay inside)
    ((Tree.isInside_iff _ _).mp inside).1

/-- What is below a record on the way beside the records is on the way to the root. -/
theorem early_of_beside {first : String} (apart : first ≠ "contracts") {names passed : List String}
    (plain : ".." ∉ first :: names) (onTheWay : passed <+: store.rootNames ++ first :: names)
    (below : store.recordPlace quality chain address <+: Place.follow [] passed) :
    passed <+: store.rootNames := by
  rcases store.onTheWay_cases plain onTheWay with early | ⟨further, part, leads⟩
  · exact early
  · rw [leads] at below
    have whole := ((List.prefix_append_right_inj _).mp below).trans part
    exact absurd (List.cons_prefix_cons.mp whole).1.symm apart

/-- Emptying a record leaves the way to it open. -/
theorem walk_clear_record (tree : Tree)
    (bypasses : store.Bypasses (store.recordPlace quality chain address))
    (segments : IsSegment chain ∧ IsSegment address) :
    (tree.clear (store.recordPlace quality chain address)).walk []
        (store.rootNames ++ recordNames quality chain address)
      = tree.walk [] (store.rootNames ++ recordNames quality chain address) :=
  tree.walk_clear fun _ onTheWay => store.outside_of_bypasses bypasses segments onTheWay

/-- What removing a partial record can come to: there is none, or it is emptied and the way to it is
lost with what was inside, or it is removed. -/
inductive Removes (store : Store) (chain address : String) (tree : Tree) : Tree → Prop
  | absent (missing : tree.node? (store.recordPlace .partly chain address) = none)
      (lost : tree.walk [] (store.rootNames ++ recordNames .partly chain address)
        = .error .notFound) : Removes store chain address tree tree
  | emptied (isDirectory : tree.node? (store.recordPlace .partly chain address) = some .directory)
      (found : tree.walk [] (store.rootNames ++ recordNames .partly chain address)
        = .ok (store.recordPlace .partly chain address))
      (lost : (tree.clear (store.recordPlace .partly chain address)).walk []
        (store.rootNames ++ recordNames .partly chain address) = .error .notFound) :
      Removes store chain address tree (tree.clear (store.recordPlace .partly chain address))
  | removed (isDirectory : tree.node? (store.recordPlace .partly chain address) = some .directory)
      (found : tree.walk [] (store.rootNames ++ recordNames .partly chain address)
        = .ok (store.recordPlace .partly chain address))
      (again : (tree.clear (store.recordPlace .partly chain address)).walk []
        (store.rootNames ++ recordNames .partly chain address)
        = .ok (store.recordPlace .partly chain address)) :
      Removes store chain address tree ((tree.clear (store.recordPlace .partly chain address)).remove
        (store.recordPlace .partly chain address))

section Lookup

variable {tree : Tree} (segments : IsSegment chain ∧ IsSegment address)

include segments

theorem walk_of_located_record {place : Place}
    (located : tree.locate store.here (recordDirectory store.root quality chain address) = .ok place) :
    place = store.recordPlace quality chain address ∧
      tree.walk [] (store.rootNames ++ recordNames quality chain address)
        = .ok (store.recordPlace quality chain address) := by
  have leads : place = store.recordPlace quality chain address :=
    (Tree.locate_eq_resolved located).trans (store.resolved_recordDirectory segments)
  have found := Tree.walk_of_locate located
  rw [store.namesFrom_recordDirectory segments, leads] at found
  exact ⟨leads, found⟩

theorem walk_of_missed_record
    (missed : tree.locate store.here (recordDirectory store.root quality chain address)
      = .error .notFound) :
    tree.walk [] (store.rootNames ++ recordNames quality chain address) = .error .notFound := by
  have lost := Tree.walk_of_locate_notFound missed
  rwa [store.namesFrom_recordDirectory segments] at lost

end Lookup

section Removal

variable {tree after : Tree} {root : Place} (closed : tree.IsClosed)
  (segments : IsSegment chain ∧ IsSegment address)
  (walked : tree.walk [] store.rootNames = .ok root)
  (isDirectory : tree.node? root = some .directory)
  (returned : store.deletePartial chain address tree = (.ok (), after))

include closed segments walked isDirectory returned

theorem removes_of_deletePartial : store.Removes chain address tree after := by
  -- The record is looked up twice, and both outcomes are told apart.
  simp only [deletePartial, Tree.removeDirectory] at returned
  split at returned
  · cases returned
  cases located : tree.locate store.here (recordDirectory store.root .partly chain address) with
  | error missing =>
    simp only [located] at returned
    split_ifs at returned with missed
    · cases returned
      -- The root is there, so it is the record itself that is missing.
      have lost := store.walk_of_missed_record segments (missed ▸ located)
      refine .absent ?_ lost
      rw [Tree.walk_append, walked] at lost
      rw [recordPlace, rootPlace, ← Tree.walk_eq_follow walked]
      exact closed.absent_of_walk (plain_recordNames segments) isDirectory lost
    · cases returned
  | ok place =>
    obtain ⟨rfl, found⟩ := store.walk_of_located_record segments located
    simp only [located] at returned
    split_ifs at returned with occupied
    · cases again : (tree.clear (store.recordPlace .partly chain address)).locate store.here
          (recordDirectory store.root .partly chain address) with
      | error missing =>
        simp only [again] at returned
        split_ifs at returned with missed
        · cases returned
          exact .emptied occupied found (store.walk_of_missed_record segments (missed ▸ again))
        · cases returned
      | ok same =>
        simp only [again] at returned
        cases returned
        obtain ⟨rfl, found'⟩ := store.walk_of_located_record segments again
        exact .removed occupied found found'
    · simp at returned

/-- No file is left of a partial record that was removed. -/
theorem emptied_of_deletePartial {place : Place}
    (inside : Tree.isInside (store.recordPlace .partly chain address) place = true) :
    after.node? place = none := by
  have cleared : (tree.clear (store.recordPlace .partly chain address)).node? place = none := by
    rw [Tree.node?_clear, if_pos inside]
  cases store.removes_of_deletePartial closed segments walked isDirectory returned with
  | absent missing =>
    by_contra bound
    -- Something inside would need the record above it.
    obtain ⟨⟨names, rfl⟩, different⟩ := (Tree.isInside_iff _ _).mp inside
    have above := closed.above _ names (by simpa using different) bound
    rw [missing] at above
    cases above
  | emptied => exact cleared
  | removed => rw [Tree.node?_remove _ (by simp [recordPlace, recordNames]), cleared, ite_self]

/-- Nothing at all is left of it, unless the way to the root leads through it. -/
theorem absent_of_deletePartial
    (bypasses : store.Bypasses (store.recordPlace .partly chain address)) :
    after.node? (store.recordPlace .partly chain address) = none := by
  cases store.removes_of_deletePartial closed segments walked isDirectory returned with
  | absent missing => exact missing
  | emptied _ found lost =>
    -- Emptying the record leaves the way to it open, so it is found again.
    rw [store.walk_clear_record tree bypasses segments, found] at lost
    cases lost
  | removed => rw [Tree.node?_remove _ (by simp [recordPlace, recordNames]), if_pos rfl]

end Removal

end Store

end SourceAttest
