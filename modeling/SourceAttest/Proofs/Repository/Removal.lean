import SourceAttest.Proofs.Repository.Records

/-!
# When removing succeeds

A partial record is removed, or found missing, unless a file is in its way or a name is too long. The
main results are `deletePartial_of_isOpen` and `isOpen_of_deletePartial`, by which removing succeeds
where no file is in the way and only there, and `eq_of_failed_deletePartial`, by which a removal that
fails has done nothing.
-/
namespace SourceAttest

/-- A path that the limits of the file system admit: no NUL, and neither it nor a name is too long. -/
structure Path.Fits (here : Place) (path : Path) : Prop where
  noNul : path.hasNul = false
  short : path.text.utf8ByteSize ≤ Tree.maxPathBytes
  names : ∀ name ∈ Tree.namesFrom here path, Tree.isTooLong name = false

instance (here : Place) (path : Path) : Decidable (path.Fits here) :=
  decidable_of_iff (path.hasNul = false ∧ path.text.utf8ByteSize ≤ Tree.maxPathBytes ∧
      ∀ name ∈ Tree.namesFrom here path, Tree.isTooLong name = false)
    ⟨fun ⟨noNul, short, names⟩ => ⟨noNul, short, names⟩, fun fits => ⟨fits.1, fits.2, fits.3⟩⟩

namespace Tree

theorem locate_of_short {here : Place} {path : Path} (short : path.text.utf8ByteSize ≤ maxPathBytes)
    (tree : Tree) : tree.locate here path = tree.walk [] (namesFrom here path) := by
  rw [locate, if_neg (by omega)]

theorem locate_of_isOpen {tree : Tree} {here : Place} {path : Path} (fits : path.Fits here)
    (free : tree.IsOpen [] (namesFrom here path)) :
    tree.locate here path = .ok (path.resolved here) ∨ tree.locate here path = .error .notFound := by
  rw [locate_of_short fits.short]
  exact walk_of_isOpen free fits.names

theorem IsOpen.clear {tree : Tree} {names : List String} (free : tree.IsOpen [] names)
    (directory : Place) : (tree.clear directory).IsOpen [] names := by
  intro passed onTheWay content
  rw [node?_clear]
  split_ifs
  · exact (Option.some_ne_none _).symm
  · exact free passed onTheWay content

end Tree

namespace Store

variable {store : Store} {chain address : String} {tree after : Tree}

theorem locate_clear_record (tree : Tree)
    (bypasses : store.Bypasses (store.recordPlace .partly chain address))
    (segments : IsSegment chain ∧ IsSegment address) :
    (tree.clear (store.recordPlace .partly chain address)).locate store.here
        (recordDirectory store.root .partly chain address)
      = tree.locate store.here (recordDirectory store.root .partly chain address) := by
  rw [Tree.locate, Tree.locate, store.namesFrom_recordDirectory segments,
    store.walk_clear_record tree bypasses segments]

/-- A record that is looked up and found is there. -/
theorem bound_of_locate {quality : Quality} {place : Place}
    (segments : IsSegment chain ∧ IsSegment address)
    (located : tree.locate store.here (recordDirectory store.root quality chain address) = .ok place) :
    tree.node? (store.recordPlace quality chain address) ≠ none := by
  obtain ⟨rfl, walked⟩ := store.walk_of_located_record segments located
  have parts : store.rootNames ++ recordNames quality chain address
      = store.rootNames ++ ["contracts", quality.directory, chain] ++ [address] := by
    simp [recordNames]
  rw [parts] at walked
  exact Tree.bound_of_walk_concat segments.2.2.2.1 walked

/-- Where no file is in the way, a record is found to be a directory, or found missing. -/
theorem locate_record_of_isOpen {quality : Quality} (segments : IsSegment chain ∧ IsSegment address)
    (fits : (recordDirectory store.root quality chain address).Fits store.here)
    (free : tree.IsOpen [] (store.rootNames ++ recordNames quality chain address)) :
    tree.locate store.here (recordDirectory store.root quality chain address)
        = .ok (store.recordPlace quality chain address) ∧
      tree.node? (store.recordPlace quality chain address) = some .directory ∨
    tree.locate store.here (recordDirectory store.root quality chain address) = .error .notFound := by
  have free' := free
  rw [← store.namesFrom_recordDirectory segments] at free'
  refine (Tree.locate_of_isOpen fits free').imp_left fun located => ?_
  have bound := bound_of_locate segments located
  rw [store.resolved_recordDirectory segments] at located
  refine ⟨located, ?_⟩
  -- What is there is no file.
  have notFile := free _ (List.prefix_refl _)
  rw [Place.follow_append, Place.follow_of_plain _ _ (plain_recordNames segments)] at notFile
  cases held : tree.node? (store.recordPlace quality chain address) with
  | none => exact absurd held bound
  | some node =>
    cases node with
    | file content => exact absurd held (notFile content)
    | directory => rfl

/-- Where no file is in the way, removing succeeds, whether there is a record or not. -/
theorem deletePartial_of_isOpen (segments : IsSegment chain ∧ IsSegment address)
    (fits : (recordDirectory store.root .partly chain address).Fits store.here)
    (free : tree.IsOpen [] (store.rootNames ++ recordNames .partly chain address)) :
    ∃ after, store.deletePartial chain address tree = (.ok (), after) := by
  have cleared := locate_record_of_isOpen segments fits (free.clear (store.recordPlace .partly chain address))
  simp only [deletePartial, Tree.removeDirectory, fits.noNul, Bool.false_eq_true, if_false]
  rcases locate_record_of_isOpen segments fits free with ⟨located, isDirectory⟩ | missing
  · rw [located]
    dsimp only
    rw [if_pos isDirectory]
    rcases cleared with ⟨again, _⟩ | lost
    · rw [again]
      exact ⟨_, rfl⟩
    · rw [lost]
      exact ⟨_, rfl⟩
  · rw [missing]
    exact ⟨tree, rfl⟩

/-- Where there is no record, and no file is in the way, nothing is done. -/
theorem deletePartial_of_absent (segments : IsSegment chain ∧ IsSegment address)
    (fits : (recordDirectory store.root .partly chain address).Fits store.here)
    (free : tree.IsOpen [] (store.rootNames ++ recordNames .partly chain address))
    (absent : tree.node? (store.recordPlace .partly chain address) = none) :
    store.deletePartial chain address tree = (.ok (), tree) := by
  simp only [deletePartial, Tree.removeDirectory, fits.noNul, Bool.false_eq_true, if_false]
  rcases locate_record_of_isOpen segments fits free with ⟨_, isDirectory⟩ | missing
  · rw [absent] at isDirectory
    cases isDirectory
  · rw [missing]
    rfl

/-- A removal that fails has done nothing, unless the way to the root leads through the record. -/
theorem eq_of_failed_deletePartial {fault : Fault}
    (bypasses : store.Bypasses (store.recordPlace .partly chain address))
    (segments : IsSegment chain ∧ IsSegment address)
    (failed : store.deletePartial chain address tree = (.error fault, after)) :
    after = tree ∧ (fault.kind = .persistence ∨
      fault = .nullInPath ∧ (recordDirectory store.root .partly chain address).hasNul = true) := by
  simp only [deletePartial, Tree.removeDirectory] at failed
  split at failed
  next held =>
    cases failed
    exact ⟨rfl, .inr ⟨rfl, held⟩⟩
  cases located : tree.locate store.here (recordDirectory store.root .partly chain address) with
  | error missing =>
    rw [located] at failed
    dsimp only at failed
    split_ifs at failed
    · cases failed
    · cases failed
      exact ⟨rfl, .inl rfl⟩
  | ok place =>
    obtain ⟨rfl, -⟩ := store.walk_of_located_record segments located
    -- A record that is a directory is found again once it is empty.
    have again := located
    rw [← locate_clear_record tree bypasses segments] at again
    rw [located] at failed
    dsimp only at failed
    split_ifs at failed
    · rw [again] at failed
      cases failed
    · split at failed
      · cases failed
      next missed =>
        cases missed
        rw [if_neg (by simp)] at failed
        cases failed
        exact ⟨rfl, .inl rfl⟩

/-- Where removing has succeeded, the path of the record was not too long. -/
theorem short_of_deletePartial (returned : store.deletePartial chain address tree = (.ok (), after)) :
    (recordDirectory store.root .partly chain address).hasNul = false ∧
      (recordDirectory store.root .partly chain address).text.utf8ByteSize ≤ Tree.maxPathBytes := by
  simp only [deletePartial] at returned
  split at returned
  · cases returned
  next noNul =>
    refine ⟨by simpa using noNul, ?_⟩
    by_contra long
    have missed : tree.locate store.here (recordDirectory store.root .partly chain address)
        = .error .nameTooLong := if_pos (Nat.lt_of_not_le long)
    rw [Tree.removeDirectory, missed] at returned
    dsimp only at returned
    rw [if_neg (by decide)] at returned
    cases returned

section

variable {root : Place} (segments : IsSegment chain ∧ IsSegment address) (closed : tree.IsClosed)
  (walked : tree.walk [] store.rootNames = .ok root) (isDirectory : tree.node? root = some .directory)
  (returned : store.deletePartial chain address tree = (.ok (), after))

include segments closed walked isDirectory returned

/-- Where a partial record has been removed or found missing, no file was in the way. -/
theorem isOpen_of_deletePartial :
    tree.IsOpen [] (store.rootNames ++ recordNames .partly chain address) := by
  have found (occupied : tree.node? (store.recordPlace .partly chain address) = some .directory)
      (reached : tree.walk [] (store.rootNames ++ recordNames .partly chain address)
        = .ok (store.recordPlace .partly chain address)) :
      tree.IsOpen [] (store.rootNames ++ recordNames .partly chain address) :=
    (Tree.allDirectories_of_walk reached occupied).isOpen
  cases store.removes_of_deletePartial closed segments walked isDirectory returned with
  | emptied occupied reached => exact found occupied reached
  | removed occupied reached => exact found occupied reached
  | absent missing lost =>
    rw [Tree.walk_append, walked] at lost
    obtain rfl := Tree.walk_eq_follow walked
    intro passed onTheWay content
    rcases Place.onTheWay_cases onTheWay with early | ⟨more, isPrefix, rfl⟩
    · exact (Tree.allDirectories_of_walk walked isDirectory).isOpen passed early content
    · rw [Place.follow_append]
      exact closed.isOpen_of_walk (plain_recordNames segments) isDirectory lost more isPrefix content

end

end Store

end SourceAttest
