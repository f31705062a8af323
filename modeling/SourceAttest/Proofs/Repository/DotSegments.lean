import SourceAttest.Pattern.Reader
import SourceAttest.Proofs.Pattern.Replacement
import SourceAttest.Repository.SafeName

/-!
# Segments of dots

The first segment of a path that consists of dots makes way for an underscore. In a text of one line it is
what the pattern `dotSegment` matches first (`replaces_replaceFirstDots`), and nothing but dots and slashes
is replaced (`Underscores.of_replaces`).
-/
namespace SourceAttest

open Pattern

/-- An end of a segment: where the text ends, or at a slash. -/
def segmentEnd (index : Nat) (limit : Pattern) : Pattern :=
  .group index (.alt (.seq .empty limit) (.seq .empty (.char (.only '/'))))

/-- A segment of dots with the slashes at its ends. -/
def dotSegment : Pattern :=
  .seq (.seq (.seq .empty (segmentEnd 1 (.start false))) (.times (.char (.only '.')) 1 none true))
    (segmentEnd 2 (.stop false))

example : Pattern.read "(^|/)[.]+($|/)" = .ok ⟨dotSegment, 2⟩ := by cbv

/-- What follows a slash. -/
def afterSlash? : List Char → Option (List Char)
  | [] => none
  | c :: rest => if c = '/' then some rest else none

theorem afterSlash?_eq_some_iff {cs rest : List Char} :
    afterSlash? cs = some rest ↔ cs = '/' :: rest := by
  cases cs with
  | nil => simp [afterSlash?]
  | cons c others => simp [afterSlash?]

/-- What follows the end of a segment. -/
def afterEnd? (cs : List Char) : Option (List Char) := if cs = [] then some [] else afterSlash? cs

theorem afterEnd?_cases {cs after : List Char} (found : afterEnd? cs = some after) :
    cs = after ∨ cs = '/' :: after := by
  rw [afterEnd?] at found
  split at found
  next ended =>
    cases found
    exact .inl ended
  · exact .inr (afterSlash?_eq_some_iff.mp found)

theorem afterDots?_eq (cs : List Char) : afterDots? cs =
    if cs.takeWhile (· = '.') = [] then none else afterEnd? (cs.dropWhile (· = '.')) := by
  rw [afterDots?]
  simp only [List.isEmpty_iff]
  split
  · rfl
  · cases cs.dropWhile (· = '.') with
    | nil => rfl
    | cons c rest =>
      rw [afterEnd?, if_neg (List.cons_ne_nil c rest), afterSlash?]
      by_cases slash : c = '/'
      · rw [slash]
        rfl
      · rw [if_neg slash]
        split <;> simp_all

theorem run_slash (next : Next) (spot : Spot) :
    (Pattern.char (.only '/')).run next spot = (afterSlash? spot.rest).bind fun rest =>
      next ⟨'/' :: spot.before, rest, spot.left - 1, spot.groups⟩ := by
  obtain ⟨before, rest, left, groups⟩ := spot
  rw [Pattern.run]
  cases rest with
  | nil => rfl
  | cons c rest =>
    dsimp only
    simp only [CharClass.has_only, decide_eq_true_eq, afterSlash?]
    split
    next slash =>
      rw [slash]
      rfl
    · rfl

/-- The end of a segment is matched at the end of the text or at a slash. -/
theorem run_segmentStop (spot : Spot) (noBreak : spot.rest ≠ ['\n']) :
    ((segmentEnd 2 (.stop false)).run some spot).map Spot.rest = afterEnd? spot.rest := by
  let next : Next := fun reached =>
    some { reached with groups := reached.groups.put 2 (spot.rest.take (spot.left - reached.left)) }
  have runs : (segmentEnd 2 (.stop false)).run some spot
      = (if spot.rest.isEmpty || spot.rest = ['\n'] || (false && spot.rest.head? = some '\n') then next spot
        else none).orElse fun _ => (Pattern.char (.only '/')).run next spot := rfl
  rw [runs, run_slash, afterEnd?]
  by_cases ended : spot.rest = []
  · simp [ended, next]
  · cases slash : afterSlash? spot.rest <;> simp [ended, noBreak, next]

theorem run_dots {spot : Spot} (oneLine : '\n' ∉ spot.rest) :
    ((Pattern.times (.char (.only '.')) 1 none true).run
      ((segmentEnd 2 (.stop false)).run some) spot).map Spot.rest = afterDots? spot.rest := by
  obtain ⟨before, rest, left, groups⟩ := spot
  have refuses : ∀ spot, Precedes (.only '.') spot →
      (segmentEnd 2 (.stop false)).run some spot = none := by
    rintro spot ⟨c, others, ahead, isDot⟩
    rw [CharClass.has_only, decide_eq_true_eq] at isDot
    subst isDot
    have ends := run_segmentStop spot (by simp [ahead])
    rw [ahead] at ends
    exact Option.map_eq_none_iff.mp ends
  rw [Pattern.run, runClassTimes_of_refuses _ _ refuses, afterDots?_eq]
  simp only [CharClass.has_only]
  split
  · rfl
  · have noBreak : rest.dropWhile (fun d => decide (d = '.')) ≠ ['\n'] := by
      intro same
      exact oneLine ((List.dropWhile_sublist _).subset (same ▸ List.mem_cons_self))
    rw [run_segmentStop] <;> rw [behindRun, CharClass.has_only]
    exact noBreak

/-- A segment of dots starts where the text does, or at a slash. -/
theorem run_dotSegment (spot : Spot) (oneLine : '\n' ∉ spot.rest) :
    (dotSegment.run some spot).map Spot.rest =
      (if spot.before = [] then afterDots? spot.rest else none).orElse fun _ =>
        (afterSlash? spot.rest).bind afterDots? := by
  let next : Next := fun reached =>
    (Pattern.times (.char (.only '.')) 1 none true).run ((segmentEnd 2 (.stop false)).run some)
      { reached with groups := reached.groups.put 1 (spot.rest.take (spot.left - reached.left)) }
  have leaves {reached : Spot} (oneLine : '\n' ∉ reached.rest) :
      (next reached).map Spot.rest = afterDots? reached.rest :=
    run_dots oneLine
  -- The first end is tried as the start of the text before it is tried as a slash.
  have runs : dotSegment.run some spot
      = (if spot.before.isEmpty || (false && spot.before.head? = some '\n') then next spot
        else none).orElse fun _ => (Pattern.char (.only '/')).run next spot := rfl
  have behindSlash : ((Pattern.char (.only '/')).run next spot).map Spot.rest
      = (afterSlash? spot.rest).bind afterDots? := by
    rw [run_slash]
    cases slash : afterSlash? spot.rest with
    | none => rfl
    | some rest =>
      have whole := afterSlash?_eq_some_iff.mp slash
      exact leaves fun later => oneLine (whole ▸ List.mem_cons_of_mem _ later)
  rw [runs]
  by_cases first : spot.before = []
  · have here := leaves oneLine
    simp only [first, List.isEmpty_nil, Bool.true_or, if_true]
    cases found : next spot with
    | none =>
      rw [found] at here
      simp [← here, behindSlash]
    | some reached =>
      rw [found] at here
      simp [← here]
  · simp [first, behindSlash]

/-- If no segment starts where the text does, the first one is found by its slash. -/
theorem replaces_replaceInnerDots {before cs : List Char}
    (noStart : (if before = [] then afterDots? cs else none) = none) (oneLine : '\n' ∉ cs) :
    Replaces dotSegment ['_'] before cs (replaceInnerDots cs) := by
  induction cs generalizing before with
  | nil =>
    have here := run_dotSegment ⟨before, [], 0, []⟩ oneLine
    rw [noStart] at here
    exact .never (Option.map_eq_none_iff.mp here)
  | cons c rest ih =>
    have here := run_dotSegment ⟨before, c :: rest, rest.length + 1, []⟩ oneLine
    rw [noStart, afterSlash?] at here
    have others := ih (if_neg (List.cons_ne_nil c before)) fun later =>
      oneLine (List.mem_cons_of_mem _ later)
    rw [replaceInnerDots]
    split
    next slash =>
      rw [if_pos slash] at here
      split
      next after found => exact .of_rest ['_'] (here.trans found)
      next none => exact .later (Option.map_eq_none_iff.mp (here.trans none)) others
    next other =>
      rw [if_neg other] at here
      exact .later (Option.map_eq_none_iff.mp here) others

theorem replaces_replaceFirstDots {cs : List Char} (oneLine : '\n' ∉ cs) :
    Replaces dotSegment ['_'] [] cs (replaceFirstDots cs) := by
  rw [replaceFirstDots]
  split
  next after found =>
    have here := run_dotSegment ⟨[], cs, cs.length, []⟩ oneLine
    rw [if_pos rfl, found] at here
    exact .of_rest ['_'] here
  next none => exact replaces_replaceInnerDots ((if_pos rfl).trans none) oneLine

/-! ### What is replaced -/

/-- At most one part, of dots and slashes only, is replaced by an underscore. -/
inductive Underscores : List Char → List Char → Prop
  | nowhere (cs : List Char) : Underscores cs cs
  | once (before : List Char) {part : List Char} (after : List Char)
      (dots : ∀ c ∈ part, c ∈ ['.', '/']) :
      Underscores (before ++ part ++ after) (before ++ '_' :: after)

theorem Underscores.cons {cs ds : List Char} (c : Char) (same : Underscores cs ds) :
    Underscores (c :: cs) (c :: ds) := by
  cases same with
  | nowhere => exact .nowhere _
  | once before after dots => exact .once (c :: before) after dots

theorem Underscores.count_eq {cs ds : List Char} (same : Underscores cs ds) {c : Char}
    (other : c ∉ ['_', '.', '/']) : ds.count c = cs.count c := by
  obtain ⟨noUnderscore, others⟩ := not_or.mp (mt List.mem_cons.mpr other)
  cases same with
  | nowhere => rfl
  | @once before part after dots =>
    have none : part.count c = 0 := List.count_eq_zero.mpr fun member => others (dots c member)
    rw [List.count_append, List.count_append, List.count_append, none,
      List.count_cons_of_ne (Ne.symm noUnderscore), Nat.add_zero]

theorem Underscores.mem {cs ds : List Char} (same : Underscores cs ds) {c : Char}
    (member : c ∈ ds) : c = '_' ∨ c ∈ cs := by
  cases same with
  | nowhere => exact .inr member
  | once before after dots =>
    rcases List.mem_append.mp member with early | late
    · exact .inr (List.mem_append_left _ (List.mem_append_left _ early))
    · exact (List.mem_cons.mp late).imp_right (List.mem_append_right _)

/-- What is taken out of the start of a text is a run of dots, and the slash behind it if there is one. -/
theorem eq_append_of_afterDots? {cs after : List Char} (found : afterDots? cs = some after) :
    ∃ part, cs = part ++ after ∧ ∀ c ∈ part, c ∈ ['.', '/'] := by
  have dots : ∀ c ∈ cs.takeWhile (· = '.'), c ∈ ['.', '/'] := by
    intro c member
    rw [of_decide_eq_true (List.all_eq_true.mp List.all_takeWhile c member)]
    exact List.mem_cons_self
  have whole : cs.takeWhile (· = '.') ++ cs.dropWhile (· = '.') = cs := List.takeWhile_append_dropWhile
  rw [afterDots?_eq] at found
  split at found
  · cases found
  · rcases afterEnd?_cases found with rest | rest
    · rw [rest] at whole
      exact ⟨_, whole.symm, dots⟩
    · rw [rest] at whole
      refine ⟨cs.takeWhile (· = '.') ++ ['/'], by rw [List.append_assoc]; exact whole.symm, ?_⟩
      exact List.forall_mem_append.mpr ⟨dots, List.forall_mem_singleton.mpr (by decide)⟩

/-- What a segment takes up is dots and slashes. -/
theorem eq_append_of_run_dotSegment {spot reached : Spot} (oneLine : '\n' ∉ spot.rest)
    (run : dotSegment.run some spot = some reached) :
    ∃ part, spot.rest = part ++ reached.rest ∧ ∀ c ∈ part, c ∈ ['.', '/'] := by
  have here := run_dotSegment spot oneLine
  rw [run, Option.map_some] at here
  cases start : (if spot.before = [] then afterDots? spot.rest else none) with
  | some after =>
    rw [start] at here
    cases here
    split at start
    · exact eq_append_of_afterDots? start
    · cases start
  | none =>
    rw [start] at here
    obtain ⟨rest, slash, found⟩ := Option.bind_eq_some_iff.mp here.symm
    obtain ⟨part, rfl, dots⟩ := eq_append_of_afterDots? found
    refine ⟨'/' :: part, afterSlash?_eq_some_iff.mp slash, ?_⟩
    exact List.forall_mem_cons.mpr ⟨by decide, dots⟩

theorem Underscores.of_replaces {before cs ds : List Char} (oneLine : '\n' ∉ cs)
    (replaces : Replaces dotSegment ['_'] before cs ds) : Underscores cs ds := by
  induction replaces with
  | here found =>
    obtain ⟨part, whole, dots⟩ := eq_append_of_run_dotSegment oneLine found
    dsimp only at whole
    rw [whole]
    exact .once [] _ dots
  | @later _ _ _ c _ _ ih => exact (ih fun later => oneLine (List.mem_cons_of_mem _ later)).cons c
  | never => exact .nowhere []

end SourceAttest
