import SourceAttest.Proofs.Repository.Filling

/-!
# Where sources land

A source belongs inside the directory `sources` of its record. Its file name may still hold double
dots or start at the top, so where it lands depends on its route: how far it goes up from that
directory, and which names it goes down again. The main result is `isInside_sourcePlace_iff`, which
says exactly when a source lands inside.
-/
namespace SourceAttest

/-! ### Routes -/

/-- What names come to: so many places up, and then some names down. -/
structure Route where
  up : Nat
  down : List String
deriving Repr, DecidableEq

namespace Route

/-- One name further. Double dots take back the last name down, or go one more place up. -/
def next (route : Route) (name : String) : Route :=
  if name = ".." then
    if route.down = [] then ⟨route.up + 1, []⟩ else ⟨route.up, route.down.dropLast⟩
  else ⟨route.up, route.down ++ [name]⟩

/-- The route of some names. -/
def ofNames (names : List String) : Route := names.foldl next ⟨0, []⟩

theorem ofNames_concat (names : List String) (name : String) :
    ofNames (names ++ [name]) = (ofNames names).next name := by
  rw [ofNames, List.foldl_append]
  rfl

/-- Where a route leads from a place. -/
def target (route : Route) (place : Place) : Place :=
  place.take (place.length - route.up) ++ route.down

theorem target_next (route : Route) (place : Place) (name : String) :
    (route.next name).target place = (route.target place).step name := by
  unfold next Place.step
  by_cases up : name = ".."
  · rw [if_pos up, if_pos up]
    by_cases none : route.down = []
    · have less : place.length - (route.up + 1)
          = min (min (place.length - route.up) place.length - 1) (place.length - route.up) := by
        omega
      rw [if_pos none, target, target, none, List.append_nil, List.append_nil,
        List.dropLast_eq_take, List.take_take, List.length_take, less]
    · rw [if_neg none, target, target, List.dropLast_append_of_ne_nil none]
  · rw [if_neg up, if_neg up, target, target, List.append_assoc]

/-- Following names is going up as far as their route says, and then down. -/
theorem follow_eq_target (place : Place) (names : List String) :
    place.follow names = (ofNames names).target place := by
  induction names using List.reverseRecOn with
  | nil => simp [ofNames, target]
  | append_singleton names name ih =>
    rw [ofNames_concat, target_next, ← ih, Place.follow_append, Place.follow_cons,
      Place.follow_nil]

theorem ofNames_of_plain {names : List String} (plain : ".." ∉ names) :
    ofNames names = ⟨0, names⟩ := by
  induction names using List.reverseRecOn with
  | nil => rfl
  | append_singleton names name ih =>
    simp only [List.mem_append, List.mem_singleton, not_or] at plain
    rw [ofNames_concat, ih plain.1, next, if_neg (Ne.symm plain.2)]

end Route

namespace Store

open SourceAttest.Tree

variable (store : Store) (quality : Quality) {chain address : String} (source : String)

/-- The place of all sources of a record. -/
def sourcesPlace (quality : Quality) (chain address : String) : Place :=
  store.recordPlace quality chain address ++ ["sources"]

def sourcePlace (quality : Quality) (chain address source : String) : Place :=
  (store.targetPath ⟨quality, chain, address, sanitizePath source, true⟩).resolved store.here

/-- The route of the file name of a source. -/
def sourceRoute (source : String) : Route := .ofNames (Path.ofString (sanitizePath source)).names

/-- The names of a place that a source leaves: those that it goes up from, and all of them if its
file name starts at the top. -/
def namesLeft (place : Place) (source : String) : List String :=
  if (Path.ofString (sanitizePath source)).anchor = .here then
    place.drop (place.length - (sourceRoute source).up)
  else place

/-- A source goes down again through all names that it leaves, and then further. -/
def ComesBack (place : Place) (source : String) : Prop :=
  namesLeft place source <+: (sourceRoute source).down ∧
    namesLeft place source ≠ (sourceRoute source).down

instance (place : Place) (source : String) : Decidable (ComesBack place source) :=
  inferInstanceAs (Decidable (_ ∧ _))

/-- A source keeps the names that it does not leave, and goes down from there. -/
theorem sourcePlace_eq (segments : IsSegment chain ∧ IsSegment address) :
    ∃ kept, store.sourcesPlace quality chain address
        = kept ++ namesLeft (store.sourcesPlace quality chain address) source ∧
      store.sourcePlace quality chain address source = kept ++ (sourceRoute source).down := by
  -- A relative name is followed from the directory of the sources, any other one from the top.
  have base : Place.follow [] (store.rootNames ++ recordNames quality chain address ++ ["sources"])
      = store.sourcesPlace quality chain address :=
    store.follow_fileNames quality segments (by decide)
  by_cases relative : (Path.ofString (sanitizePath source)).anchor = .here
  · have names := store.namesFrom_targetPath
      ⟨quality, chain, address, sanitizePath source, true⟩ segments relative
    refine ⟨(store.sourcesPlace quality chain address).take
      ((store.sourcesPlace quality chain address).length - (sourceRoute source).up), ?_, ?_⟩
    · rw [namesLeft, if_pos relative, List.take_append_drop]
    · rw [if_pos rfl] at names
      rw [sourcePlace, Path.resolved, names, Place.follow_append, base, Route.follow_eq_target,
        Route.target, sourceRoute]
  · refine ⟨[], ?_, ?_⟩
    · rw [namesLeft, if_neg relative, List.nil_append]
    · have own : store.targetPath ⟨quality, chain, address, sanitizePath source, true⟩
          = Path.ofString (sanitizePath source) := by
        rw [targetPath, Path.join, Path.append, if_neg relative]
      rw [sourcePlace, own, Path.resolved, namesFrom, if_neg relative, Route.follow_eq_target,
        Route.target, List.take_nil, sourceRoute]

/-- A source lands inside its directory exactly if it comes back to it. -/
theorem isInside_sourcePlace_iff (segments : IsSegment chain ∧ IsSegment address) :
    isInside (store.sourcesPlace quality chain address)
        (store.sourcePlace quality chain address source) = true ↔
      ComesBack (store.sourcesPlace quality chain address) source := by
  obtain ⟨kept, whole, place⟩ := store.sourcePlace_eq quality source segments
  rw [isInside_iff, place, ComesBack]
  -- What is kept is common to both places and cancels.
  generalize namesLeft (store.sourcesPlace quality chain address) source = left at whole
  rw [whole, List.prefix_append_right_inj, ne_eq, List.append_cancel_left_eq]

theorem isInside_sourcePlace_of_staysInside (segments : IsSegment chain ∧ IsSegment address)
    (inside : StaysInside (sanitizePath source))
    (named : (Path.ofString (sanitizePath source)).names ≠ []) :
    isInside (store.sourcesPlace quality chain address)
      (store.sourcePlace quality chain address source) = true := by
  rw [store.isInside_sourcePlace_iff quality source segments]
  have route : sourceRoute source = ⟨0, (Path.ofString (sanitizePath source)).names⟩ :=
    Route.ofNames_of_plain inside.2
  rw [ComesBack, namesLeft, if_pos inside.1, route, Nat.sub_zero, List.drop_length]
  dsimp only
  exact ⟨List.nil_prefix, Ne.symm named⟩

/-- A file name that starts at the top cannot name two roots. -/
theorem relative_of_comesBack
    (first : ComesBack (sourcesPlace ⟨⟨.top, ["a"]⟩, []⟩ .full "1" "a") source)
    (second : ComesBack (sourcesPlace ⟨⟨.top, ["b"]⟩, []⟩ .full "1" "a") source) :
    (Path.ofString (sanitizePath source)).anchor = .here := by
  by_contra anchored
  have one := first.1
  have other := second.1
  rw [namesLeft, if_neg anchored] at one other
  have same := List.prefix_of_prefix_length_le one other (by decide)
  exact absurd same (by decide)

/-- A file name that goes up to two addresses goes up once at most, and comes back if it does. -/
theorem ways_of_comesBack (relative : (Path.ofString (sanitizePath source)).anchor = .here)
    (first : ComesBack (sourcesPlace ⟨⟨.top, ["a"]⟩, []⟩ .full "1" "a") source)
    (second : ComesBack (sourcesPlace ⟨⟨.top, ["a"]⟩, []⟩ .full "1" "b") source) :
    (sourceRoute source).up = 0 ∧ (sourceRoute source).down ≠ [] ∨
      (sourceRoute source).up = 1 ∧
        ∃ name rest, (sourceRoute source).down = "sources" :: name :: rest := by
  rw [ComesBack, namesLeft, if_pos relative] at first second
  generalize sourceRoute source = route at first second ⊢
  obtain ⟨up, down⟩ := route
  match up with
  | 0 =>
    left
    exact ⟨rfl, fun none => first.2 (by rw [none]; rfl)⟩
  | 1 =>
    right
    obtain ⟨⟨more, rest⟩, different⟩ := first
    cases more with
    | nil => exact absurd (by simpa using rest) different
    | cons name rest' => exact ⟨rfl, name, rest', rest.symm⟩
  | n + 2 =>
    -- Going up twice leaves the address, and cannot come back to two of them.
    have sizes : ∀ address, (sourcesPlace ⟨⟨.top, ["a"]⟩, []⟩ .full "1" address).length = 6 :=
      fun _ => rfl
    -- Both ways back are equally long and start the same names.
    have same := (List.prefix_of_prefix_length_le first.1 second.1
      (by simp [sizes])).eq_of_length (by simp [sizes])
    have apart := congrArg (fun names => names[4 - (6 - (n + 2))]?) same
    simp only [sizes, List.getElem?_drop] at apart
    rw [show 6 - (n + 2) + (4 - (6 - (n + 2))) = 4 by omega] at apart
    exact absurd apart (by decide)

/-- The sources that land inside in every repository and every record: they go down only, or they go
up once and come back by the name of the directory. -/
theorem isInside_sourcePlace_everywhere_iff :
    (∀ (store : Store) (quality : Quality) (chain address : String),
      IsSegment chain ∧ IsSegment address →
      isInside (store.sourcesPlace quality chain address)
        (store.sourcePlace quality chain address source) = true) ↔
    (Path.ofString (sanitizePath source)).anchor = .here ∧
      ((sourceRoute source).up = 0 ∧ (sourceRoute source).down ≠ [] ∨
        (sourceRoute source).up = 1 ∧
          ∃ name rest, (sourceRoute source).down = "sources" :: name :: rest) := by
  constructor
  · intro everywhere
    have comesBack (root address : String) (segment : IsSegment address) :
        ComesBack (sourcesPlace ⟨⟨.top, [root]⟩, []⟩ .full "1" address) source :=
      (isInside_sourcePlace_iff _ _ _ ⟨by decide, segment⟩).mp
        (everywhere ⟨⟨.top, [root]⟩, []⟩ .full "1" address ⟨by decide, segment⟩)
    -- Two roots and two addresses tell all file names apart that do not land inside everywhere.
    have relative := relative_of_comesBack source (comesBack "a" "a" (by decide))
      (comesBack "b" "a" (by decide))
    exact ⟨relative, ways_of_comesBack source relative (comesBack "a" "a" (by decide))
      (comesBack "a" "b" (by decide))⟩
  · rintro ⟨relative, ways⟩ store quality chain address segments
    rw [store.isInside_sourcePlace_iff quality source segments, ComesBack, namesLeft,
      if_pos relative]
    rcases ways with ⟨level, named⟩ | ⟨once, name, rest, down⟩
    · rw [level, Nat.sub_zero, List.drop_length]
      exact ⟨List.nil_prefix, Ne.symm named⟩
    · rw [once, down, sourcesPlace, List.length_append, List.length_singleton,
        Nat.add_sub_cancel, List.drop_left]
      exact ⟨List.prefix_append ["sources"] _, by simp⟩

end Store

end SourceAttest
