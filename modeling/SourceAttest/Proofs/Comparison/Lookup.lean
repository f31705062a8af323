import Mathlib.Tactic.SplitIfs
import SourceAttest.Comparison
import SourceAttest.Proofs.Alike
import SourceAttest.Proofs.Json.Shape

/-!
# When creation data are looked up

A comparison either comes to its outcome by the codes and the data at hand, or it looks up creation
data exactly once and judges by what it is told. The main result is `compareValues_cases`: the second
happens only for codes that are equally long and different once their trailers are gone.
-/
namespace SourceAttest

open SourceAttest.Action

/-- Without their trailers the two codes are different and equally long. -/
def Undecided (code compiled : String) : Prop :=
  Bytecode.trim (Bytecode.normalize code) ≠ Bytecode.trim (Bytecode.normalize compiled) ∧
    (Bytecode.trim (Bytecode.normalize code)).length
      = (Bytecode.trim (Bytecode.normalize compiled)).length

/-- What a comparison comes to by creation data, or by the failure to find them. -/
def judge (creation : Option String) : Except Fault (Option String) → Except Fault Verdict
  | .error fault => if fault.kind = .creationDataNotFound then .ok .noMatch else .error fault
  | .ok none => .ok .noMatch
  | .ok (some data) =>
    if Bytecode.normalize data = "0x" then .ok .noMatch
    else (compareCreation (Bytecode.normalize data) (creation.map Bytecode.normalize)).mapError .shape

/-- The outcome is the same whatever a look-up would say, and none is made. -/
def Decides (compare : Action (Option String) → Action Verdict) (outcome : Except Fault Verdict) :
    Prop :=
  ∀ fetch world session, compare fetch world session = (outcome, session)

/-- One look-up is made, and its answer is judged. -/
def LooksUp (compare : Action (Option String) → Action Verdict) (creation : Option String) : Prop :=
  ∀ fetch world session, compare fetch world session
    = (judge creation (fetch world session).1, (fetch world session).2)

variable {deployed known runtime creation : Option String}

theorem compareRuntime_eq_none {code : String} (returned : compareRuntime code runtime = .ok none) :
    ∃ compiled, runtime = some compiled ∧ Bytecode.trim code ≠ Bytecode.trim compiled ∧
      (Bytecode.trim code).length = (Bytecode.trim compiled).length := by
  unfold compareRuntime at returned
  split_ifs at returned with same
  · cases returned
  · split at returned
    · cases returned
    next compiled =>
      dsimp only at returned
      split_ifs at returned with sameTrimmed sizes
      · cases returned
      · cases returned
      · exact ⟨compiled, rfl, sameTrimmed, Decidable.not_not.mp sizes⟩

/-- The last part of a comparison: creation data decide, if there are any. -/
def compareFound (creation found : Option String) : Action Verdict :=
  match found.map Bytecode.normalize with
  | none => pure .noMatch
  | some data =>
    if data = "0x" then pure .noMatch
    else ofShape (compareCreation data (creation.map Bytecode.normalize))

theorem compareFound_run (creation found : Option String) (world : World) (session : Session) :
    compareFound creation found world session = (judge creation (.ok found), session) := by
  cases found with
  | none => rfl
  | some data =>
    simp only [compareFound, Option.map_some, judge]
    split_ifs with empty
    · rfl
    · exact ofShape_run _

theorem compareBytecodes_of_open {code : String} (present : Bytecode.normalize code ≠ "0x")
    (byCodes : compareRuntime (Bytecode.normalize code) (runtime.map Bytecode.normalize) = .ok none)
    (fetch : Action (Option String)) :
    compareBytecodes (some code) known runtime creation fetch
      = creationDataFor known fetch >>= compareFound creation := by
  simp only [compareBytecodes, Option.map_some, if_neg present, byCodes]
  rfl

theorem fetched_run (fetch : Action (Option String)) (world : World) (session : Session) :
    creationDataFor.fetched fetch world session
      = (match (fetch world session).1 with
          | .ok data => .ok data
          | .error fault => if fault.kind = .creationDataNotFound then .ok none else .error fault,
        (fetch world session).2) := by
  rw [creationDataFor.fetched, bind_of_ok (attempt_run fetch world session)]
  cases (fetch world session).1 with
  | ok data => rfl
  | error fault =>
    dsimp only
    split_ifs
    · rfl
    · rfl

theorem looksUp_of_open {code : String} (present : Bytecode.normalize code ≠ "0x")
    (byCodes : compareRuntime (Bytecode.normalize code) (runtime.map Bytecode.normalize) = .ok none)
    (unknown : ∀ data, known = some data → data = "") :
    LooksUp (compareBytecodes (some code) known runtime creation) creation := by
  intro fetch world session
  have fetched : creationDataFor known fetch = creationDataFor.fetched fetch := by
    cases known with
    | none => rfl
    | some data => rw [creationDataFor, if_pos (unknown data rfl)]
  have run := fetched_run fetch world session
  rw [compareBytecodes_of_open present byCodes, fetched]
  cases found : (fetch world session).1 with
  | ok data =>
    rw [found] at run
    rw [bind_of_ok run, compareFound_run]
  | error fault =>
    rw [found] at run
    dsimp only [judge] at run ⊢
    split_ifs at run ⊢ with missing
    · rw [bind_of_ok run]
      rfl
    · rw [bind_of_error run]

/-- Where the codes decide nothing, creation data at hand do. -/
theorem decides_of_known {code data : String} (present : Bytecode.normalize code ≠ "0x")
    (byCodes : compareRuntime (Bytecode.normalize code) (runtime.map Bytecode.normalize) = .ok none)
    (filled : data ≠ "") :
    Decides (compareBytecodes (some code) (some data) runtime creation)
      (judge creation (.ok (some data))) := by
  intro fetch world session
  have atHand : creationDataFor (some data) fetch world session = (.ok (some data), session) := by
    rw [creationDataFor, if_neg filled]
    rfl
  rw [compareBytecodes_of_open present byCodes, bind_of_ok atHand, compareFound_run]

theorem compareBytecodes_cases (deployed known runtime creation : Option String) :
    (∃ outcome, Decides (compareBytecodes deployed known runtime creation) outcome) ∨
    ∃ code compiled, deployed = some code ∧ runtime = some compiled ∧ Undecided code compiled ∧
      (∀ data, known = some data → data = "") ∧
      LooksUp (compareBytecodes deployed known runtime creation) creation := by
  cases deployed with
  | none => exact .inl ⟨.ok .noMatch, fun _ _ _ => rfl⟩
  | some code =>
    by_cases absent : Bytecode.normalize code = "0x"
    · left
      refine ⟨.ok .noMatch, fun _ _ _ => ?_⟩
      simp only [compareBytecodes, Option.map_some, if_pos absent]
      rfl
    cases byCodes : compareRuntime (Bytecode.normalize code) (runtime.map Bytecode.normalize) with
    | error why =>
      left
      refine ⟨.error (.shape why), fun _ _ _ => ?_⟩
      simp only [compareBytecodes, Option.map_some, if_neg absent, byCodes]
      rfl
    | ok decided =>
      cases decided with
      | some verdict =>
        left
        refine ⟨.ok verdict, fun _ _ _ => ?_⟩
        simp only [compareBytecodes, Option.map_some, if_neg absent, byCodes]
        rfl
      | none =>
        -- The codes decide nothing, so it depends on whether there are data at hand.
        by_cases unknown : ∀ data, known = some data → data = ""
        · right
          obtain ⟨normalized, present, different, sizes⟩ := compareRuntime_eq_none byCodes
          obtain ⟨compiled, rfl, rfl⟩ := Option.map_eq_some_iff.mp present
          exact ⟨code, compiled, rfl, rfl, ⟨different, sizes⟩, unknown,
            looksUp_of_open absent byCodes unknown⟩
        · left
          cases known with
          | none => exact absurd nofun unknown
          | some data =>
            have filled : data ≠ "" := by
              rintro rfl
              exact unknown fun _ same => (Option.some.inj same).symm
            exact ⟨judge creation (.ok (some data)), decides_of_known absent byCodes filled⟩

theorem text?_of_ofJson {value : Json} {code : String} (read : Bytecode.ofJson value = .ok (some code)) :
    value.text? = some code := by
  cases value with
  | string text =>
    cases read
    rfl
  | unpaired text =>
    cases read
    rfl
  | _ => cases read

theorem text_of_isTruthy {value : Json} {data : Option String} (present : value.isTruthy = true)
    (read : Bytecode.ofJson value = .ok data) : ∃ text, data = some text ∧ text ≠ "" := by
  cases data with
  | none =>
    cases value with
    | null => cases present
    | _ => cases read
  | some text => exact ⟨text, rfl, (Json.isTruthy_iff_of_text? (text?_of_ofJson read)).mp present⟩

section Reading

variable {deployedValue knownValue runtimeValue creationValue : Json}
  (readDeployed : Bytecode.ofJson deployedValue = .ok deployed)
  (present : (deployed.map Bytecode.normalize).getD "0x" ≠ "0x")
  (readRuntime : Bytecode.ofJson runtimeValue = .ok runtime)
  (readCreation : Bytecode.ofJson creationValue = .ok creation)

include readDeployed present readRuntime readCreation

private theorem compareValues_without_data (absent : knownValue.isTruthy = false) :
    compareValues deployedValue knownValue runtimeValue creationValue
      = compareBytecodes deployed none runtime creation := by
  funext fetch
  rw [compareValues, readDeployed, ofShape_ok_bind, if_neg present, readRuntime, ofShape_ok_bind,
    readCreation, ofShape_ok_bind, absent]
  rfl

private theorem decides_of_data (atHand : knownValue.isTruthy = true) :
    ∃ outcome, Decides (compareValues deployedValue knownValue runtimeValue creationValue)
      outcome := by
  cases readKnown : Bytecode.ofJson knownValue with
  | ok data =>
    have read (fetch : Action (Option String)) :
        compareValues deployedValue knownValue runtimeValue creationValue fetch
          = compareBytecodes deployed data runtime creation fetch := by
      rw [compareValues, readDeployed, ofShape_ok_bind, if_neg present, readRuntime, ofShape_ok_bind,
        readCreation, ofShape_ok_bind, atHand, readKnown]
      rfl
    obtain ⟨text, rfl, filled⟩ := text_of_isTruthy atHand readKnown
    rcases compareBytecodes_cases deployed (some text) runtime creation with
      ⟨outcome, decides⟩ | ⟨_, _, _, _, _, unknown, _⟩
    · exact ⟨outcome, fun fetch => read fetch ▸ decides fetch⟩
    · exact absurd (unknown text rfl) filled
  | error why =>
    -- Data that are no text stand in for the look-up, and fail where it would be made.
    have read (fetch : Action (Option String)) :
        compareValues deployedValue knownValue runtimeValue creationValue fetch
          = compareBytecodes deployed none runtime creation (fail (.shape why)) := by
      rw [compareValues, readDeployed, ofShape_ok_bind, if_neg present, readRuntime, ofShape_ok_bind,
        readCreation, ofShape_ok_bind, atHand, readKnown]
      rfl
    rcases compareBytecodes_cases deployed none runtime creation with
      ⟨outcome, decides⟩ | ⟨_, _, _, _, _, _, looksUp⟩
    · exact ⟨outcome, fun fetch => read fetch ▸ decides _⟩
    · exact ⟨judge creation (.error (.shape why)), fun fetch => read fetch ▸ looksUp _⟩

end Reading

/-- A comparison looks up creation data only if none are at hand and the codes alone do not decide;
then it does so once, and nothing but the answer matters. -/
theorem compareValues_cases (deployed known runtime creation : Json) :
    (∃ outcome, Decides (compareValues deployed known runtime creation) outcome) ∨
    ∃ code compiled created, deployed.text? = some code ∧ runtime.text? = some compiled ∧
      Undecided code compiled ∧ known.isTruthy = false ∧ Bytecode.ofJson creation = .ok created ∧
      LooksUp (compareValues deployed known runtime creation) created := by
  -- A value that is no code ends the comparison at once.
  cases readDeployed : Bytecode.ofJson deployed with
  | error why =>
    left
    refine ⟨.error (.shape why), fun fetch world session => ?_⟩
    rw [compareValues, readDeployed, ofShape_error_bind]
    rfl
  | ok code =>
    by_cases absent : (code.map Bytecode.normalize).getD "0x" = "0x"
    · left
      refine ⟨.ok .noMatch, fun fetch world session => ?_⟩
      rw [compareValues, readDeployed, ofShape_ok_bind, if_pos absent]
      rfl
    cases readRuntime : Bytecode.ofJson runtime with
    | error why =>
      left
      refine ⟨.error (.shape why), fun fetch world session => ?_⟩
      rw [compareValues, readDeployed, ofShape_ok_bind, if_neg absent, readRuntime,
        ofShape_error_bind]
      rfl
    | ok compiled =>
      cases readCreation : Bytecode.ofJson creation with
      | error why =>
        left
        refine ⟨.error (.shape why), fun fetch world session => ?_⟩
        rw [compareValues, readDeployed, ofShape_ok_bind, if_neg absent, readRuntime,
          ofShape_ok_bind, readCreation, ofShape_error_bind]
        rfl
      | ok created =>
        cases atHand : known.isTruthy with
        | true => exact .inl (decides_of_data readDeployed absent readRuntime readCreation atHand)
        | false =>
          rw [compareValues_without_data readDeployed absent readRuntime readCreation atHand]
          rcases compareBytecodes_cases code none compiled created with
            ⟨outcome, decides⟩ | ⟨text, other, rfl, rfl, undecided, -, looksUp⟩
          · exact .inl ⟨outcome, decides⟩
          · exact .inr ⟨text, other, created, text?_of_ofJson readDeployed,
              text?_of_ofJson readRuntime, undecided, rfl, rfl, looksUp⟩

/-- In sessions that are alike a comparison comes to the same, if the look-up does. -/
theorem ignoresCalls_compareValues {world : World} (deployed known runtime creation : Json)
    {fetch : Action (Option String)} (ignores : fetch.IgnoresCalls world) :
    (compareValues deployed known runtime creation fetch).IgnoresCalls world := by
  constructor
  intro first second alike
  rcases compareValues_cases deployed known runtime creation with
    ⟨outcome, decides⟩ | ⟨_, _, created, _, _, _, _, _, looksUp⟩
  · rw [decides fetch world first, decides fetch world second]
    exact ⟨rfl, alike⟩
  · obtain ⟨answers, sessions⟩ := ignores.same alike
    rw [looksUp fetch world first, looksUp fetch world second, answers]
    exact ⟨rfl, sessions⟩

/-! ### Comparing texts -/

/-- Only the form of a code in which codes are compared matters. -/
theorem compareValues_congr {code other : String} {known known' : Json}
    (same : Bytecode.normalize code = Bytecode.normalize other) (absent : known.isTruthy = false)
    (absent' : known'.isTruthy = false) (runtime creation : Json) :
    compareValues (.string code) known runtime creation
      = compareValues (.string other) known' runtime creation := by
  funext fetch
  have codes (runtime creation : Option String) :
      compareBytecodes (some code) none runtime creation fetch
        = compareBytecodes (some other) none runtime creation fetch := by
    simp only [compareBytecodes, Option.map_some, same]
  simp only [compareValues, Bytecode.ofJson, ofShape_ok_bind, Option.map_some, same, absent, absent',
    codes, Bool.not_false, if_true]

theorem compareRuntime_of_text (code runtime : String) :
    ∃ decided, compareRuntime code (some runtime) = .ok decided := by
  unfold compareRuntime
  split_ifs
  · exact ⟨_, rfl⟩
  · dsimp only
    split_ifs
    · exact ⟨_, rfl⟩
    · exact ⟨_, rfl⟩
    · exact ⟨_, rfl⟩

theorem judge_of_text (creation : String) {answer : Except Fault (Option String)}
    (found : ∀ fault, answer = .error fault → fault.kind = .creationDataNotFound) :
    ∃ verdict, judge (some creation) answer = .ok verdict := by
  cases answer with
  | error fault => exact ⟨.noMatch, if_pos (found fault rfl)⟩
  | ok data =>
    cases data with
    | none => exact ⟨.noMatch, rfl⟩
    | some data =>
      simp only [judge, Option.map_some, compareCreation]
      split_ifs
      · exact ⟨_, rfl⟩
      · exact ⟨_, rfl⟩
      · exact ⟨_, rfl⟩
      · exact ⟨_, rfl⟩

/-- Texts can be compared, if nothing worse comes of the look-up than that there are no data. -/
theorem compareValues_of_texts {known : Json} {fetch : Action (Option String)} {world : World}
    {session : Session} (code runtime creation : String) (absent : known.isTruthy = false)
    (found : ∀ fault, (fetch world session).1 = .error fault → fault.kind = .creationDataNotFound) :
    ∃ verdict final, compareValues (.string code) known (.string runtime) (.string creation) fetch
      world session = (.ok verdict, final) := by
  by_cases empty : Bytecode.normalize code = "0x"
  · refine ⟨.noMatch, session, ?_⟩
    simp only [compareValues, Bytecode.ofJson, ofShape_ok_bind, Option.map_some, empty]
    rfl
  have read (text : String) : Bytecode.ofJson (.string text) = .ok (some text) := rfl
  rw [compareValues_without_data (read code) (by rwa [Option.map_some, Option.getD_some])
    (read runtime) (read creation) absent]
  obtain ⟨decided, byCodes⟩ := compareRuntime_of_text (Bytecode.normalize code)
    (Bytecode.normalize runtime)
  cases decided with
  | some verdict =>
    refine ⟨verdict, session, ?_⟩
    simp only [compareBytecodes, Option.map_some, if_neg empty, byCodes]
    rfl
  | none =>
    obtain ⟨verdict, judged⟩ := judge_of_text creation found
    have undecided : compareRuntime (Bytecode.normalize code)
        ((some runtime).map Bytecode.normalize) = .ok none := byCodes
    have unknown : ∀ data, (none : Option String) = some data → data = "" := nofun
    rw [looksUp_of_open empty undecided unknown fetch world session, judged]
    exact ⟨verdict, _, rfl⟩

end SourceAttest
