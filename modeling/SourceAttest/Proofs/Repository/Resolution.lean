import Mathlib.Data.List.Infix
import SourceAttest.Repository.Tree

/-!
# Where names lead

Names lead from a place to another one without a look at the tree, as long as all places on the way
are directories: a name goes down, double dots go up. The main results are `walk_eq_follow`, by which
every walk that succeeds ends where its names lead, and `IsClosed.absent_of_walk`, by which a walk
that finds nothing tells that there is nothing.
-/
namespace SourceAttest

namespace Place

def step (place : Place) (name : String) : Place :=
  if name = ".." then place.dropLast else place ++ [name]

/-- Where names lead from a place. -/
def follow (place : Place) (names : List String) : Place := names.foldl step place

@[simp] theorem follow_nil (place : Place) : follow place [] = place := rfl

@[simp] theorem follow_cons (place : Place) (name : String) (rest : List String) :
    follow place (name :: rest) = follow (step place name) rest := rfl

theorem follow_append (place : Place) (names more : List String) :
    follow place (names ++ more) = follow (follow place names) more :=
  List.foldl_append

theorem follow_of_plain (place : Place) (names : List String) (plain : ".." ∉ names) :
    follow place names = place ++ names := by
  induction names generalizing place with
  | nil => simp
  | cons name rest ih =>
    simp only [List.mem_cons, not_or] at plain
    rw [follow_cons, step, if_neg (Ne.symm plain.1), ih _ plain.2, List.append_assoc,
      List.singleton_append]

/-- The first names of two parts belong to the first part, or go some way into the second one. -/
theorem onTheWay_cases {names more passed : List String} (onTheWay : passed <+: names ++ more) :
    passed <+: names ∨ ∃ further, further <+: more ∧ passed = names ++ further := by
  rcases List.prefix_or_prefix_of_prefix onTheWay (List.prefix_append _ _) with
    early | ⟨further, rfl⟩
  · exact .inl early
  · exact .inr ⟨further, (List.prefix_append_right_inj names).mp onTheWay, rfl⟩

/-- The first names are all of them, or belong to those before the last one. -/
theorem last_or_onTheWay {names passed : List String} (onTheWay : passed <+: names) :
    passed = names ∨ passed <+: names.dropLast := by
  rcases names.eq_nil_or_concat' with rfl | ⟨above, name, rfl⟩
  · exact .inl (List.prefix_nil.mp onTheWay)
  · rw [List.dropLast_concat]
    exact List.prefix_concat_iff.mp onTheWay

end Place

namespace Path

/-- Where a path leads, when relative paths start at `here`. -/
def resolved (here : Place) (path : Path) : Place := Place.follow [] (Tree.namesFrom here path)

end Path

namespace Tree

/-! ### What places hold -/

theorem node?_put (tree : Tree) {place : Place} (below : place ≠ []) (node : Node) (other : Place) :
    node? (tree.put place node) other = if other = place then some node else tree.node? other := by
  unfold node?
  by_cases same : other = place
  · rw [if_neg (same ▸ below), if_pos same, same, Table.get?_put_self]
  · rw [if_neg same, Table.get?_put_of_ne same]

/-- The content of the file at a place. -/
def file? (tree : Tree) (place : Place) : Option (List UInt8) :=
  match tree.node? place with
  | some (.file content) => some content
  | _ => none

theorem file?_of_node? {tree other : Tree} {place : Place} (same : tree.node? place = other.node? place) :
    tree.file? place = other.file? place := by
  rw [file?, file?, same]

/-- Every place that holds something lies in a directory. -/
def IsClosed (tree : Tree) : Prop :=
  ∀ place name, tree.node? (place ++ [name]) ≠ none → tree.node? place = some .directory

/-! ### Walking -/

/-- All places on the way of some names are directories, the first and the last one included. -/
def AllDirectories (tree : Tree) (place : Place) (names : List String) : Prop :=
  ∀ passed, passed <+: names → tree.node? (place.follow passed) = some .directory

/-- A walk that succeeds ends where the names lead. -/
theorem walk_eq_follow {tree : Tree} {place result : Place} {names : List String}
    (returned : tree.walk place names = .ok result) : result = place.follow names := by
  induction names generalizing place with
  | nil => exact (Except.ok.inj returned).symm
  | cons name rest ih =>
    rw [walk] at returned
    split at returned
    · cases returned
    · cases returned
    · split_ifs at returned with up long
      · rw [ih returned, Place.follow_cons, Place.step, if_pos up]
      · split at returned
        · cases returned
        · rw [ih returned, Place.follow_cons, Place.step, if_neg up]

theorem allDirectories_of_walk {tree : Tree} {place result : Place} {names : List String}
    (returned : tree.walk place names = .ok result)
    (ends : tree.node? result = some .directory) : tree.AllDirectories place names := by
  induction names generalizing place with
  | nil =>
    intro passed isPrefix
    rw [List.prefix_nil.mp isPrefix, Place.follow_nil, Except.ok.inj returned]
    exact ends
  | cons name rest ih =>
    -- A walk goes on only from a directory, and the rest of it is a walk from the next place.
    have onward : tree.node? place = some .directory ∧
        tree.AllDirectories (place.step name) rest := by
      rw [walk] at returned
      split at returned
      · cases returned
      · cases returned
      next here =>
        split_ifs at returned with up long
        · exact ⟨here, by rw [Place.step, if_pos up]; exact ih returned⟩
        · split at returned
          · cases returned
          · exact ⟨here, by rw [Place.step, if_neg up]; exact ih returned⟩
    intro passed isPrefix
    rcases List.prefix_cons_iff.mp isPrefix with rfl | ⟨more, rfl, isRest⟩
    · exact onward.1
    · exact onward.2 more isRest

theorem walk_append (tree : Tree) (place : Place) (names more : List String) :
    tree.walk place (names ++ more) = (tree.walk place names).bind fun middle => tree.walk middle more := by
  induction names generalizing place with
  | nil => rfl
  | cons name rest ih =>
    rw [List.cons_append, walk, walk]
    split
    · rfl
    · rfl
    · split_ifs
      · exact ih _
      · rfl
      · split
        · rfl
        · exact ih _

/-- A walk that succeeds leads first where the first names lead, and then on from there. -/
theorem walk_of_walk_append {tree : Tree} {place result : Place} {names more : List String}
    (returned : tree.walk place (names ++ more) = .ok result) :
    tree.walk place names = .ok (place.follow names) ∧
      tree.walk (place.follow names) more = .ok result := by
  rw [walk_append] at returned
  cases reached : tree.walk place names with
  | error fault =>
    rw [reached] at returned
    cases returned
  | ok middle =>
    rw [reached] at returned
    obtain rfl := walk_eq_follow reached
    exact ⟨rfl, returned⟩

/-- A walk sees no more of a tree than the places on its way. -/
theorem walk_congr {tree other : Tree} {place : Place} {names : List String}
    (same : ∀ passed, passed <+: names →
      tree.node? (place.follow passed) = other.node? (place.follow passed)) :
    tree.walk place names = other.walk place names := by
  induction names generalizing place with
  | nil => rfl
  | cons name rest ih =>
    have here : tree.node? place = other.node? place := same [] (List.nil_prefix)
    have next : tree.node? (place.step name) = other.node? (place.step name) :=
      same [name] (List.prefix_cons_iff.mpr (.inr ⟨[], rfl, List.nil_prefix⟩))
    have onward : tree.walk (place.step name) rest = other.walk (place.step name) rest :=
      ih fun passed isPrefix => same (name :: passed) (List.cons_prefix_cons.mpr ⟨rfl, isPrefix⟩)
    -- Both walks make the same step, and from there they agree by induction.
    rw [walk, walk, here]
    by_cases up : name = ".."
    · rw [Place.step, if_pos up] at onward
      simp only [if_pos up, onward]
    · rw [Place.step, if_neg up] at onward next
      simp only [if_neg up, onward, next]

/-- A walk that ends with a name has found what the name leads to. -/
theorem bound_of_walk_concat {tree : Tree} {place result : Place} {names : List String} {name : String}
    (down : name ≠ "..") (returned : tree.walk place (names ++ [name]) = .ok result) :
    tree.node? result ≠ none := by
  obtain ⟨-, last⟩ := walk_of_walk_append returned
  rw [walk] at last
  split at last
  · cases last
  · cases last
  · rw [if_neg down] at last
    split_ifs at last
    split at last
    · cases last
    next node bound =>
      cases last
      rw [bound]
      exact Option.some_ne_none node

/-- No file is on the way of some names, nor where they lead. -/
def IsOpen (tree : Tree) (place : Place) (names : List String) : Prop :=
  ∀ passed, passed <+: names → ∀ content, tree.node? (place.follow passed) ≠ some (.file content)

/-- Where no file is in the way and all names fit, a walk can only miss something. -/
theorem walk_of_isOpen {tree : Tree} {place : Place} {names : List String}
    (free : tree.IsOpen place names) (short : ∀ name ∈ names, isTooLong name = false) :
    tree.walk place names = .ok (place.follow names) ∨ tree.walk place names = .error .notFound := by
  induction names generalizing place with
  | nil => exact .inl rfl
  | cons name rest ih =>
    obtain ⟨fits, others⟩ := List.forall_mem_cons.mp short
    have onward : tree.walk (place.step name) rest = .ok ((place.step name).follow rest) ∨
        tree.walk (place.step name) rest = .error .notFound :=
      ih (fun passed isPrefix => free (name :: passed) (List.cons_prefix_cons.mpr ⟨rfl, isPrefix⟩))
        others
    rw [walk, Place.follow_cons]
    split
    · exact .inr rfl
    next content occupied => exact absurd occupied (free [] List.nil_prefix content)
    · rw [Place.step] at onward ⊢
      split_ifs at onward ⊢ with up
      · exact onward
      next long =>
        rw [fits] at long
        cases long
      · split
        · exact .inr rfl
        · exact onward

theorem AllDirectories.isOpen {tree : Tree} {place : Place} {names : List String}
    (all : tree.AllDirectories place names) : tree.IsOpen place names := by
  intro passed onTheWay content file
  rw [all passed onTheWay] at file
  cases file

theorem AllDirectories.shorter {tree : Tree} {place : Place} {names less : List String}
    (all : tree.AllDirectories place names) (shorter : less <+: names) :
    tree.AllDirectories place less :=
  fun passed onTheWay => all passed (onTheWay.trans shorter)

theorem IsOpen.shorter {tree : Tree} {place : Place} {names less : List String}
    (free : tree.IsOpen place names) (shorter : less <+: names) : tree.IsOpen place less :=
  fun passed onTheWay => free passed (onTheWay.trans shorter)

/-- Where all places are directories and all names fit, a walk succeeds. -/
theorem walk_of_allDirectories {tree : Tree} {place : Place} {names : List String}
    (all : tree.AllDirectories place names) (short : ∀ name ∈ names, isTooLong name = false) :
    tree.walk place names = .ok (place.follow names) := by
  induction names generalizing place with
  | nil => rfl
  | cons name rest ih =>
    obtain ⟨fits, others⟩ := List.forall_mem_cons.mp short
    have next : tree.node? (place.step name) = some .directory :=
      all [name] (List.prefix_cons_iff.mpr (.inr ⟨[], rfl, List.nil_prefix⟩))
    have onward : tree.walk (place.step name) rest = .ok ((place.step name).follow rest) :=
      ih (fun passed onTheWay => all (name :: passed) (List.cons_prefix_cons.mpr ⟨rfl, onTheWay⟩)) others
    have here : tree.node? place = some .directory := all [] List.nil_prefix
    rw [walk, here, Place.follow_cons]
    rw [Place.step] at onward next ⊢
    dsimp only
    split_ifs at onward next ⊢ with up long
    · exact onward
    · rw [fits] at long
      cases long
    · rw [next]
      exact onward

/-- A walk that succeeds has used no name that is too long. -/
theorem short_of_walk {tree : Tree} {place result : Place} {names : List String}
    (returned : tree.walk place names = .ok result) : ∀ name ∈ names, isTooLong name = false := by
  induction names generalizing place with
  | nil => exact fun name member => absurd member List.not_mem_nil
  | cons name rest ih =>
    rw [walk] at returned
    split at returned
    · cases returned
    · cases returned
    · split_ifs at returned with up long
      · exact List.forall_mem_cons.mpr ⟨by rw [up]; decide, ih returned⟩
      · split at returned
        · cases returned
        · exact List.forall_mem_cons.mpr ⟨by simpa using long, ih returned⟩

/-! ### Closed trees -/

/-- A tree is closed if all that it binds lies in directories. -/
theorem isClosed_of_keys {tree : Tree}
    (each : ∀ place ∈ tree.keys, tree.node? place.dropLast = some .directory) : tree.IsClosed := by
  intro place name bound
  have inside : place ++ [name] ∈ tree.keys := by
    rw [← Table.has_iff_mem_keys, Table.has, Option.isSome_iff_ne_none]
    rwa [node?, if_neg (by simp)] at bound
  have above := each _ inside
  rwa [List.dropLast_concat] at above

theorem IsClosed.of_same {tree other : Tree} (closed : tree.IsClosed)
    (same : ∀ place, other.node? place = tree.node? place) : other.IsClosed := by
  intro place name bound
  rw [same] at bound ⊢
  exact closed place name bound

theorem IsClosed.directory_dropLast {tree : Tree} (closed : tree.IsClosed) {place : Place}
    (isDirectory : tree.node? place = some .directory) :
    tree.node? place.dropLast = some .directory := by
  by_cases top : place = []
  · rw [top]
    rfl
  · apply closed place.dropLast (place.getLast top)
    rw [List.dropLast_append_getLast, isDirectory]
    exact Option.some_ne_none _

/-- Where no file is in the way, a walk from a directory goes through directories only. -/
theorem IsClosed.allDirectories_of_isOpen {tree : Tree} (closed : tree.IsClosed) {place result : Place}
    {names : List String} (here : tree.node? place = some .directory) (free : tree.IsOpen place names)
    (returned : tree.walk place names = .ok result) : tree.AllDirectories place names := by
  induction names generalizing place with
  | nil =>
    intro passed onTheWay
    rw [List.prefix_nil.mp onTheWay]
    exact here
  | cons name rest ih =>
    have beyond : tree.IsOpen (place.step name) rest := fun passed onTheWay =>
      free (name :: passed) (List.cons_prefix_cons.mpr ⟨rfl, onTheWay⟩)
    -- The next place is a directory: the one above, or one that is found and is no file.
    have onward : tree.AllDirectories (place.step name) rest := by
      rw [walk, here] at returned
      rw [Place.step] at beyond ⊢
      dsimp only at returned
      split_ifs at returned beyond ⊢ with up long
      · exact ih (closed.directory_dropLast here) beyond returned
      · split at returned
        · cases returned
        next node bound =>
          cases node with
          | file content => exact absurd bound (beyond [] List.nil_prefix content)
          | directory => exact ih bound beyond returned
    intro passed onTheWay
    rcases List.prefix_cons_iff.mp onTheWay with rfl | ⟨more, rfl, isRest⟩
    · exact here
    · exact onward more isRest

theorem IsClosed.above {tree : Tree} (closed : tree.IsClosed) (place : Place) (names : List String)
    (below : names ≠ []) (bound : tree.node? (place ++ names) ≠ none) :
    tree.node? place = some .directory := by
  induction names generalizing place with
  | nil => exact absurd rfl below
  | cons name rest ih =>
    -- The directory right above is known, and those further up by induction from there.
    by_cases last : rest = []
    · subst last
      exact closed place name bound
    · have split : place ++ name :: rest = place ++ [name] ++ rest := by simp
      rw [split] at bound
      have inner := ih (place ++ [name]) last bound
      exact closed place name (by rw [inner]; exact Option.some_ne_none _)

/-- Where a walk down a closed tree finds nothing, there is nothing. -/
theorem IsClosed.absent_of_walk {tree : Tree} (closed : tree.IsClosed) {place : Place}
    {names : List String} (plain : ".." ∉ names) (here : tree.node? place = some .directory)
    (returned : tree.walk place names = .error .notFound) : tree.node? (place ++ names) = none := by
  induction names generalizing place with
  | nil => cases returned
  | cons name rest ih =>
    simp only [List.mem_cons, not_or] at plain
    have split : place ++ name :: rest = place ++ [name] ++ rest := by simp
    rw [walk, here] at returned
    simp only [if_neg (Ne.symm plain.1)] at returned
    split_ifs at returned with long
    · cases returned
    · by_contra bound
      rw [split] at bound
      -- Were there something after all, the next place would be found, and be a directory if it is not the last one.
      cases rest with
      | nil =>
        rw [List.append_nil] at bound
        split at returned
        next absent => exact bound absent
        · cases returned
      | cons next more =>
        have inner := closed.above (place ++ [name]) (next :: more) (by simp) bound
        simp only [inner] at returned
        exact bound (ih plain.2 inner returned)

/-- Where a walk down a closed tree finds nothing, no file has been in the way. -/
theorem IsClosed.isOpen_of_walk {tree : Tree} (closed : tree.IsClosed) {place : Place}
    {names : List String} (plain : ".." ∉ names) (here : tree.node? place = some .directory)
    (returned : tree.walk place names = .error .notFound) : tree.IsOpen place names := by
  intro passed onTheWay content file
  have plainPassed : ".." ∉ passed := fun up => plain (onTheWay.subset up)
  obtain ⟨more, rfl⟩ := onTheWay
  rw [walk_append] at returned
  cases reached : tree.walk place passed with
  | error fault =>
    rw [reached] at returned
    cases returned
    rw [Place.follow_of_plain _ _ plainPassed, closed.absent_of_walk plainPassed here reached] at file
    cases file
  | ok middle =>
    rw [reached] at returned
    obtain rfl := walk_eq_follow reached
    -- A file ends a walk, or stops it, but does not let it find nothing.
    cases more with
    | nil => cases returned
    | cons name rest =>
      dsimp only [Except.bind] at returned
      rw [walk, file] at returned
      cases returned

end Tree

end SourceAttest
