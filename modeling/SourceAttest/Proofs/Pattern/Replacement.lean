import SourceAttest.Pattern.Basic

/-!
# Replacing the first match

The first match of a pattern is looked for from left to right and makes way for other text. Where what
follows a greedy repeat cannot start with a character of the repeated class, only the longest run of such
characters is a match: `runClassTimes_of_refuses`.
-/
namespace SourceAttest

/-- The class of one character. -/
def CharClass.only (c : Char) : CharClass := ⟨[.single c], false, false⟩

theorem CharClass.has_only (c : Char) : (CharClass.only c).has = fun d => decide (d = c) := by
  funext d
  rw [CharClass.has, only]
  simp [ClassPart.has, eq_comm (a := c)]

namespace Pattern

/-- The characters from a place on become others by replacing the first match there, if there is one.
`before` are the characters before the place, nearest first. -/
inductive Replaces (pattern : Pattern) (filler : List Char) :
    List Char → List Char → List Char → Prop
  | here {before rest : List Char} {reached : Spot}
      (found : pattern.run some ⟨before, rest, rest.length, []⟩ = some reached) :
      Replaces pattern filler before rest (filler ++ reached.rest)
  | later {before rest replaced : List Char} {c : Char}
      (refused : pattern.run some ⟨before, c :: rest, rest.length + 1, []⟩ = none)
      (others : Replaces pattern filler (c :: before) rest replaced) :
      Replaces pattern filler before (c :: rest) (c :: replaced)
  | never {before : List Char} (refused : pattern.run some ⟨before, [], 0, []⟩ = none) :
      Replaces pattern filler before [] []

theorem Replaces.of_rest {pattern : Pattern} {before rest after : List Char} (filler : List Char)
    (found : (pattern.run some ⟨before, rest, rest.length, []⟩).map Spot.rest = some after) :
    Replaces pattern filler before rest (filler ++ after) := by
  obtain ⟨reached, isReached, rfl⟩ := Option.map_eq_some_iff.mp found
  exact .here isReached

/-! ### Runs of a class -/

variable (cls : CharClass) (groups : Table Nat (List Char))

/-- The spot behind the longest run of characters of a class. -/
def behindRun (before : List Char) (left : Nat) (rest : List Char) : Spot :=
  ⟨(rest.takeWhile cls.has).reverse ++ before, rest.dropWhile cls.has,
    left - (rest.takeWhile cls.has).length, groups⟩

/-- A character of a class follows a spot. -/
def Precedes (spot : Spot) : Prop := ∃ c rest, spot.rest = c :: rest ∧ cls.has c = true

/-- All spots that are reached before the end of the longest run have one of its characters ahead. -/
theorem reach_eq (before : List Char) (left : Nat) (rest : List Char) (reached : List Spot) :
    ∃ nearer : List Spot, nearer.length = (rest.takeWhile cls.has).length ∧
      (∀ spot ∈ nearer, Precedes cls spot) ∧
      reach cls groups none before left rest reached
        = behindRun cls groups before left rest :: (nearer ++ reached) := by
  induction rest generalizing before left reached with
  | nil => exact ⟨[], rfl, List.forall_mem_nil _, rfl⟩
  | cons c rest ih =>
    by_cases own : cls.has c = true
    · -- The spot before this character comes behind all that are reached further on.
      let here : Spot := ⟨before, c :: rest, left, groups⟩
      obtain ⟨nearer, count, precede, reaches⟩ := ih (c :: before) (left - 1) (here :: reached)
      refine ⟨nearer ++ [here], ?_, ?_, ?_⟩
      · rw [List.takeWhile_cons_of_pos own, List.length_append, count]
        rfl
      · intro spot member
        rcases List.mem_append.mp member with further | last
        · exact precede spot further
        · cases List.mem_singleton.mp last
          exact ⟨c, rest, rfl, own⟩
      · have behind : behindRun cls groups (c :: before) (left - 1) rest
            = behindRun cls groups before left (c :: rest) := by
          rw [behindRun, behindRun, List.takeWhile_cons_of_pos own, List.dropWhile_cons_of_pos own,
            List.reverse_cons, List.append_assoc, List.length_cons, Nat.sub_sub, Nat.add_comm 1]
          rfl
        rw [List.append_assoc, ← behind]
        change _ = _ :: (nearer ++ here :: reached)
        rw [← reaches, reach, own]
        rfl
    · refine ⟨[], ?_, List.forall_mem_nil _, ?_⟩
      · rw [List.takeWhile_cons_of_neg own]
        rfl
      · rw [behindRun, List.takeWhile_cons_of_neg own, List.dropWhile_cons_of_neg own, reach,
          Bool.eq_false_iff.mpr own]
        rfl

/-- A greedy repeat matches the longest run only, if what follows refuses all shorter ones. -/
theorem runClassTimes_of_refuses {next : Next} (refuses : ∀ spot, Precedes cls spot → next spot = none)
    (before : List Char) (left : Nat) (rest : List Char) :
    runClassTimes cls 1 none true next ⟨before, rest, left, groups⟩
      = if rest.takeWhile cls.has = [] then none else next (behindRun cls groups before left rest) := by
  obtain ⟨nearer, count, precede, reaches⟩ := reach_eq cls groups before left rest []
  rw [List.append_nil] at reaches
  rw [runClassTimes, reaches, List.length_cons, Nat.add_sub_cancel, count]
  cases run : rest.takeWhile cls.has with
  | nil => rfl
  | cons c others =>
    have none : (nearer.take others.length).findSome? next = none :=
      List.findSome?_eq_none_iff.mpr fun spot member => refuses spot (precede spot (List.mem_of_mem_take member))
    rw [if_neg (List.cons_ne_nil c others), if_pos rfl, List.length_cons, List.take_succ_cons,
      List.findSome?_cons, none]
    cases next (behindRun cls groups before left rest) <;> rfl

end Pattern

end SourceAttest
