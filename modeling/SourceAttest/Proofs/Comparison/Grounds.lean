import SourceAttest.Proofs.Bytecode.Normal
import SourceAttest.Proofs.Comparison.Lookup

/-!
# The grounds of a verdict

A match rests on one of four grounds: the codes are the same, they are the same without their trailers,
or the creation data begin with the creation code, with or without its trailer. The main result is
`verdicts_justified`: a match is always given on exactly one of these grounds, and each of them leads to
its match.
-/
namespace SourceAttest

open SourceAttest.Action

/-- The creation data that are used: those at hand unless they are empty, else what a look-up tells. -/
def dataUsed (known : Option String) (answer : Except Fault (Option String)) :
    Except Fault (Option String) :=
  match known with
  | some data => if data = "" then answer else .ok (some data)
  | none => answer

/-- What is compared, every text in its normal form. -/
structure Compared where
  deployed : String
  runtime : String
  creation : String
  data : Option String

/-- The normal forms of texts and of the creation data that are used, if there are any. -/
def Compared.of (code runtime creation : String) (used : Except Fault (Option String)) : Compared where
  deployed := Bytecode.normalize code
  runtime := Bytecode.normalize runtime
  creation := Bytecode.normalize creation
  data := used.toOption.join.map Bytecode.normalize

def Begins (start text : String) : Prop := ∃ rest, start ++ rest = text

/-- There is code, and the sizes without trailers agree. -/
structure Compared.SameSize (codes : Compared) : Prop where
  present : codes.deployed ≠ "0x"
  sizes : (Bytecode.trim codes.deployed).length = (Bytecode.trim codes.runtime).length

inductive Ground where
  | sameCode
  | sameTrimmed
  | creationCode
  | trimmedCreation
deriving Repr, DecidableEq

namespace Ground

def Holds (codes : Compared) : Ground → Prop
  | sameCode => codes.deployed = codes.runtime
  | sameTrimmed => codes.deployed ≠ codes.runtime ∧
      Bytecode.trim codes.deployed = Bytecode.trim codes.runtime
  | creationCode => Bytecode.trim codes.deployed ≠ Bytecode.trim codes.runtime ∧
      ∃ data, codes.data = some data ∧ data ≠ "0x" ∧ Begins codes.creation data
  | trimmedCreation => Bytecode.trim codes.deployed ≠ Bytecode.trim codes.runtime ∧
      ∃ data, codes.data = some data ∧ data ≠ "0x" ∧ ¬ Begins codes.creation data ∧
        Begins (Bytecode.trim codes.creation) data

/-- The verdict that is given on a ground. Arguments are what follows the creation code, if anything. -/
def Gives (codes : Compared) (verdict : Verdict) : Ground → Prop
  | sameCode => verdict = ⟨.exact, none⟩
  | sameTrimmed => verdict = ⟨.partly, none⟩
  | creationCode =>
    (codes.data = some codes.creation ∧ verdict = ⟨.exact, none⟩) ∨
      ∃ args, args ≠ "" ∧ codes.data = some (codes.creation ++ args) ∧
        verdict = ⟨.exact, some ("0x" ++ args)⟩
  | trimmedCreation => verdict = ⟨.partly, none⟩

/-- No two grounds hold at once. -/
theorem unique {codes : Compared} {ground other : Ground} (holds : ground.Holds codes)
    (also : other.Holds codes) : other = ground := by
  have trimmed (same : codes.deployed = codes.runtime) :
      Bytecode.trim codes.deployed = Bytecode.trim codes.runtime := by rw [same]
  have one {data data' : String} (isData : codes.data = some data) (isData' : codes.data = some data') :
      data = data' := Option.some.inj (isData.symm.trans isData')
  -- The grounds exclude each other by the codes alone, but for the two on creation data.
  cases ground with
  | sameCode =>
    cases other with
    | sameCode => rfl
    | sameTrimmed => exact absurd holds also.1
    | creationCode => exact absurd (trimmed holds) also.1
    | trimmedCreation => exact absurd (trimmed holds) also.1
  | sameTrimmed =>
    cases other with
    | sameCode => exact absurd also holds.1
    | sameTrimmed => rfl
    | creationCode => exact absurd holds.2 also.1
    | trimmedCreation => exact absurd holds.2 also.1
  | creationCode =>
    cases other with
    | sameCode => exact absurd (trimmed also) holds.1
    | sameTrimmed => exact absurd also.2 holds.1
    | creationCode => rfl
    | trimmedCreation =>
      obtain ⟨-, data, isData, -, begins⟩ := holds
      obtain ⟨-, data', isData', -, other, -⟩ := also
      exact absurd (one isData isData' ▸ begins) other
  | trimmedCreation =>
    cases other with
    | sameCode => exact absurd (trimmed also) holds.1
    | sameTrimmed => exact absurd also.2 holds.1
    | creationCode =>
      obtain ⟨-, data, isData, -, other, -⟩ := holds
      obtain ⟨-, data', isData', -, begins⟩ := also
      exact absurd (one isData isData' ▸ begins) other
    | trimmedCreation => rfl

end Ground

/-! ### Beginnings of texts -/

theorem startsWith_iff (start text : String) : Text.startsWith start text = true ↔ Begins start text := by
  rw [Text.startsWith, List.isPrefixOf_iff_prefix]
  constructor
  · rintro ⟨rest, same⟩
    refine ⟨String.ofList rest, String.toList_inj.mp ?_⟩
    rw [String.toList_append, String.toList_ofList, same]
  · rintro ⟨rest, rfl⟩
    exact ⟨rest.toList, (String.toList_append ..).symm⟩

theorem constructorArgs_append (creation args : String) :
    constructorArgs (creation ++ args) creation = if args = "" then none else some ("0x" ++ args) := by
  have behind : (creation ++ args).toList.drop creation.length = args.toList := by
    rw [String.toList_append, ← String.length_toList, List.drop_left]
  rw [constructorArgs, argsBehind, behind]
  split_ifs with empty
  · subst empty
    rfl
  · cases characters : args.toList with
    | nil => exact absurd (String.toList_eq_nil_iff.mp characters) empty
    | cons c rest =>
      refine congrArg some (String.toList_inj.mp ?_)
      rw [String.toList_append, characters, String.toList_ofList]
      rfl

/-! ### The two halves of a comparison -/

theorem compareRuntime_cases (code runtime : String) :
    (code = runtime ∧ compareRuntime code (some runtime) = .ok (some .exact)) ∨
    (code ≠ runtime ∧ Bytecode.trim code = Bytecode.trim runtime ∧
      compareRuntime code (some runtime) = .ok (some .partly)) ∨
    (Bytecode.trim code ≠ Bytecode.trim runtime ∧
      (Bytecode.trim code).length ≠ (Bytecode.trim runtime).length ∧
      compareRuntime code (some runtime) = .ok (some .noMatch)) ∨
    (Bytecode.trim code ≠ Bytecode.trim runtime ∧
      (Bytecode.trim code).length = (Bytecode.trim runtime).length ∧
      compareRuntime code (some runtime) = .ok none) := by
  by_cases same : code = runtime
  · exact .inl ⟨same, by rw [compareRuntime, if_pos (congrArg some same.symm)]⟩
  have different : ¬ some runtime = some code := fun equal => same (Option.some.inj equal).symm
  right
  rw [compareRuntime, if_neg different]
  dsimp only
  by_cases sameTrimmed : Bytecode.trim code = Bytecode.trim runtime
  · exact .inl ⟨same, sameTrimmed, if_pos sameTrimmed⟩
  right
  rw [if_neg sameTrimmed]
  by_cases sizes : (Bytecode.trim code).length = (Bytecode.trim runtime).length
  · exact .inr ⟨sameTrimmed, sizes, if_neg (not_not_intro sizes)⟩
  · exact .inl ⟨sameTrimmed, sizes, if_pos sizes⟩

theorem compareRuntime_of_sizes {code runtime : String}
    (different : Bytecode.trim code ≠ Bytecode.trim runtime)
    (sizes : (Bytecode.trim code).length = (Bytecode.trim runtime).length) :
    compareRuntime code (some runtime) = .ok none := by
  rcases compareRuntime_cases code runtime with
    ⟨same, -⟩ | ⟨-, same, -⟩ | ⟨-, other, -⟩ | ⟨-, -, byCodes⟩
  · exact absurd (congrArg Bytecode.trim same) different
  · exact absurd same different
  · exact absurd sizes other
  · exact byCodes

theorem compareCreation_cases (data creation : String) :
    (Begins creation data ∧
      compareCreation data (some creation) = .ok ⟨.exact, constructorArgs data creation⟩) ∨
    (¬ Begins creation data ∧ Begins (Bytecode.trim creation) data ∧
      compareCreation data (some creation) = .ok .partly) ∨
    (¬ Begins creation data ∧ ¬ Begins (Bytecode.trim creation) data ∧
      compareCreation data (some creation) = .ok .noMatch) := by
  simp only [← startsWith_iff, compareCreation]
  split_ifs with whole trimmed
  · exact .inl ⟨whole, rfl⟩
  · exact .inr (.inl ⟨whole, trimmed, rfl⟩)
  · exact .inr (.inr ⟨whole, trimmed, rfl⟩)

theorem judge_of_data {data : String} (creation : String) (filled : Bytecode.normalize data ≠ "0x") :
    judge (some creation) (.ok (some data))
      = (compareCreation (Bytecode.normalize data) (some (Bytecode.normalize creation))).mapError
          .shape := by
  rw [judge, if_neg filled]
  rfl

/-- A match by creation data rests on one of the two grounds for it. -/
theorem ground_of_judge {code runtime creation : String} {used : Except Fault (Option String)}
    {verdict : Verdict}
    (different : Bytecode.trim (Bytecode.normalize code) ≠ Bytecode.trim (Bytecode.normalize runtime))
    (judged : judge (some creation) used = .ok verdict) (isMatch : verdict.status ≠ .none) :
    ∃ ground : Ground, ground.Holds (.of code runtime creation used) ∧
      ground.Gives (.of code runtime creation used) verdict := by
  -- Without data, or with empty ones, there is no match.
  rcases used with fault | _ | data
  · rw [judge] at judged
    split_ifs at judged
    cases judged
    exact absurd rfl isMatch
  · cases judged
    exact absurd rfl isMatch
  by_cases empty : Bytecode.normalize data = "0x"
  · rw [judge, if_pos empty] at judged
    cases judged
    exact absurd rfl isMatch
  rw [judge_of_data creation empty] at judged
  rcases compareCreation_cases (Bytecode.normalize data) (Bytecode.normalize creation) with
    ⟨begins, found⟩ | ⟨other, begins, found⟩ | ⟨-, -, found⟩
  · rw [found] at judged
    cases judged
    refine ⟨.creationCode, ⟨different, _, rfl, empty, begins⟩, ?_⟩
    obtain ⟨args, isData⟩ := begins
    rw [← isData, constructorArgs_append]
    split_ifs with none
    · rw [none, String.append_empty] at isData
      exact .inl ⟨congrArg some isData.symm, rfl⟩
    · exact .inr ⟨args, none, congrArg some isData.symm, rfl⟩
  · rw [found] at judged
    cases judged
    exact ⟨.trimmedCreation, ⟨different, _, rfl, empty, other, begins⟩, rfl⟩
  · rw [found] at judged
    cases judged
    exact absurd rfl isMatch

/-- Creation data that begin with the creation code give an exact match, with what follows. -/
theorem judge_of_begins {creation data args : String} (filled : Bytecode.normalize data ≠ "0x")
    (isData : Bytecode.normalize creation ++ args = Bytecode.normalize data) :
    judge (some creation) (.ok (some data))
      = .ok ⟨.exact, if args = "" then none else some ("0x" ++ args)⟩ := by
  rw [judge_of_data creation filled]
  rcases compareCreation_cases (Bytecode.normalize data) (Bytecode.normalize creation) with
    ⟨-, found⟩ | ⟨other, -, -⟩ | ⟨other, -, -⟩
  · rw [found, ← isData, constructorArgs_append]
    rfl
  · exact absurd ⟨args, isData⟩ other
  · exact absurd ⟨args, isData⟩ other

theorem judge_of_ground {code runtime creation : String} {used : Except Fault (Option String)}
    {ground : Ground} (holds : ground.Holds (.of code runtime creation used))
    (different : Bytecode.trim (Bytecode.normalize code) ≠ Bytecode.trim (Bytecode.normalize runtime)) :
    ∃ verdict, judge (some creation) used = .ok verdict ∧
      ground.Gives (.of code runtime creation used) verdict := by
  have found {text : String} (isText : (Compared.of code runtime creation used).data = some text) :
      ∃ data, used = .ok (some data) ∧ Bytecode.normalize data = text := by
    rcases used with fault | _ | data
    · cases isText
    · cases isText
    · exact ⟨data, rfl, Option.some.inj isText⟩
  -- The codes have been found different, so the ground is one on creation data.
  cases ground with
  | sameCode => exact absurd (congrArg Bytecode.trim holds) different
  | sameTrimmed => exact absurd holds.2 different
  | creationCode =>
    obtain ⟨-, text, isText, filled, args, begins⟩ := holds
    obtain ⟨data, rfl, rfl⟩ := found isText
    refine ⟨_, judge_of_begins filled begins, ?_⟩
    split_ifs with none
    · rw [none, String.append_empty] at begins
      exact .inl ⟨congrArg some begins.symm, rfl⟩
    · exact .inr ⟨args, none, congrArg some begins.symm, rfl⟩
  | trimmedCreation =>
    obtain ⟨-, text, isText, filled, other, begins⟩ := holds
    obtain ⟨data, rfl, rfl⟩ := found isText
    refine ⟨.partly, ?_, rfl⟩
    rw [judge_of_data creation filled]
    rcases compareCreation_cases (Bytecode.normalize data) (Bytecode.normalize creation) with
      ⟨whole, -⟩ | ⟨-, -, found⟩ | ⟨-, none, -⟩
    · exact absurd whole other
    · rw [found]
      rfl
    · exact absurd begins none

/-! ### The whole comparison -/

section Comparison

variable {code runtime creation : String} {known : Option String} {fetch : Action (Option String)}
  {world : World} {session : Session}

/-- Where the codes alone do not decide, the creation data that are used are judged. -/
theorem compareBytecodes_of_undecided (present : Bytecode.normalize code ≠ "0x")
    (byCodes : compareRuntime (Bytecode.normalize code) (some (Bytecode.normalize runtime)) = .ok none) :
    (compareBytecodes (some code) known (some runtime) (some creation) fetch world session).1
      = judge (some creation) (dataUsed known (fetch world session).1) := by
  have undecided : compareRuntime (Bytecode.normalize code) ((some runtime).map Bytecode.normalize)
      = .ok none := by rw [Option.map_some, byCodes]
  by_cases unknown : ∀ data, known = some data → data = ""
  · have used : dataUsed known (fetch world session).1 = (fetch world session).1 := by
      cases known with
      | none => rfl
      | some data => exact if_pos (unknown data rfl)
    rw [looksUp_of_open present undecided unknown fetch world session, used]
  · cases known with
    | none => exact absurd nofun unknown
    | some data =>
      have filled : data ≠ "" := by
        rintro rfl
        exact unknown fun _ same => (Option.some.inj same).symm
      rw [decides_of_known present undecided filled fetch world session, dataUsed, if_neg filled]

theorem compareBytecodes_of_verdict {verdict : Verdict} (present : Bytecode.normalize code ≠ "0x")
    (byCodes : compareRuntime (Bytecode.normalize code) (some (Bytecode.normalize runtime))
      = .ok (some verdict)) :
    (compareBytecodes (some code) known (some runtime) (some creation) fetch world session).1
      = .ok verdict := by
  simp only [compareBytecodes, Option.map_some, if_neg present, byCodes]
  rfl

/-- A match is given on a ground, for codes of one size. -/
theorem ground_of_match {verdict : Verdict}
    (returned : (compareBytecodes (some code) known (some runtime) (some creation) fetch world session).1
      = .ok verdict) (isMatch : verdict.status ≠ .none) :
    (Compared.of code runtime creation (dataUsed known (fetch world session).1)).SameSize ∧
    ∃ ground : Ground,
      ground.Holds (.of code runtime creation (dataUsed known (fetch world session).1)) ∧
      ground.Gives (.of code runtime creation (dataUsed known (fetch world session).1)) verdict := by
  by_cases absent : Bytecode.normalize code = "0x"
  · simp only [compareBytecodes, Option.map_some, if_pos absent] at returned
    cases returned
    exact absurd rfl isMatch
  rcases compareRuntime_cases (Bytecode.normalize code) (Bytecode.normalize runtime) with
    ⟨same, byCodes⟩ | ⟨different, same, byCodes⟩ | ⟨-, -, byCodes⟩ | ⟨different, sizes, byCodes⟩
  · cases (compareBytecodes_of_verdict absent byCodes).symm.trans returned
    exact ⟨⟨absent, congrArg (fun code => (Bytecode.trim code).length) same⟩, .sameCode, same, rfl⟩
  · cases (compareBytecodes_of_verdict absent byCodes).symm.trans returned
    exact ⟨⟨absent, congrArg String.length same⟩, .sameTrimmed, ⟨different, same⟩, rfl⟩
  · cases (compareBytecodes_of_verdict absent byCodes).symm.trans returned
    exact absurd rfl isMatch
  · rw [compareBytecodes_of_undecided absent byCodes] at returned
    exact ⟨⟨absent, sizes⟩, ground_of_judge different returned isMatch⟩

/-- Every ground leads to its match, for codes of one size. -/
theorem match_of_ground {ground : Ground}
    (sameSize : (Compared.of code runtime creation (dataUsed known (fetch world session).1)).SameSize)
    (holds : ground.Holds (.of code runtime creation (dataUsed known (fetch world session).1))) :
    ∃ verdict,
      (compareBytecodes (some code) known (some runtime) (some creation) fetch world session).1
        = .ok verdict ∧
      ground.Gives (.of code runtime creation (dataUsed known (fetch world session).1)) verdict := by
  obtain ⟨present, sizes⟩ := sameSize
  have only {other : Ground}
      (also : other.Holds (.of code runtime creation (dataUsed known (fetch world session).1))) :
      other = ground := Ground.unique holds also
  rcases compareRuntime_cases (Bytecode.normalize code) (Bytecode.normalize runtime) with
    ⟨same, byCodes⟩ | ⟨different, same, byCodes⟩ | ⟨-, other, -⟩ | ⟨different, -, byCodes⟩
  · rw [← @only .sameCode same]
    exact ⟨_, compareBytecodes_of_verdict present byCodes, rfl⟩
  · rw [← @only .sameTrimmed ⟨different, same⟩]
    exact ⟨_, compareBytecodes_of_verdict present byCodes, rfl⟩
  · exact absurd sizes other
  · rw [compareBytecodes_of_undecided present byCodes]
    exact judge_of_ground holds different

/-- Creation data that are the creation code with digits behind it give an exact match. -/
theorem match_of_creation_and_digits {args : String}
    (sameSize : (Compared.of code runtime creation (dataUsed known (fetch world session).1)).SameSize)
    (different : Bytecode.trim (Bytecode.normalize code) ≠ Bytecode.trim (Bytecode.normalize runtime))
    (filled : Bytecode.normalize creation ≠ "0x") (hex : ∀ c ∈ args.toList, Bytecode.IsHexDigit c)
    (used : dataUsed known (fetch world session).1 = .ok (some (Bytecode.normalize creation ++ args))) :
    (compareBytecodes (some code) known (some runtime) (some creation) fetch world session).1
      = .ok ⟨.exact, if args = "" then none else some ("0x" ++ Text.lower args)⟩ := by
  obtain ⟨present, sizes⟩ := sameSize
  have normal := Bytecode.normalize_append creation hex
  have filledData : Bytecode.normalize (Bytecode.normalize creation ++ args) ≠ "0x" := by
    rw [normal]
    intro empty
    obtain ⟨rest, starts, -⟩ := Bytecode.toList_normalize creation
    have characters := congrArg String.toList empty
    rw [String.toList_append, starts] at characters
    have nothing := (List.cons.inj (List.cons.inj characters).2).2
    rw [(List.append_eq_nil_iff.mp nothing).1] at starts
    exact filled (String.toList_inj.mp starts)
  have lowerEmpty : Text.lower args = "" ↔ args = "" := by
    constructor
    · exact Text.eq_empty_of_lower_eq_empty
    · rintro rfl
      rfl
  rw [compareBytecodes_of_undecided present (compareRuntime_of_sizes different sizes), used,
    judge_of_begins filledData normal.symm]
  simp only [lowerEmpty]

end Comparison

/-- Every match is given for codes of one size and on exactly one ground, and every ground leads to its
match. In particular creation data that are the creation code with digits behind it give an exact match
with these digits as the arguments. -/
theorem verdicts_justified (deployed known : Option String) (runtime creation : String)
    (fetch : Action (Option String)) (world : World) (session : Session) :
    let used := dataUsed known (fetch world session).1
    let outcome :=
      (compareBytecodes deployed known (some runtime) (some creation) fetch world session).1
    (∀ verdict, outcome = .ok verdict → verdict.status ≠ .none →
      ∃ code, deployed = some code ∧ (Compared.of code runtime creation used).SameSize ∧
        ∃ ground : Ground, ground.Holds (.of code runtime creation used) ∧
          ground.Gives (.of code runtime creation used) verdict ∧
          ∀ other : Ground, other.Holds (.of code runtime creation used) → other = ground) ∧
    (∀ code, deployed = some code → (Compared.of code runtime creation used).SameSize →
      (∀ ground : Ground, ground.Holds (.of code runtime creation used) →
        ∃ verdict, outcome = .ok verdict ∧ ground.Gives (.of code runtime creation used) verdict) ∧
      ∀ args : String, (∀ c ∈ args.toList, Bytecode.IsHexDigit c) →
        Bytecode.trim (Bytecode.normalize code) ≠ Bytecode.trim (Bytecode.normalize runtime) →
        Bytecode.normalize creation ≠ "0x" →
        used = .ok (some (Bytecode.normalize creation ++ args)) →
        outcome = .ok ⟨.exact, if args = "" then none else some ("0x" ++ Text.lower args)⟩) := by
  refine ⟨fun verdict returned isMatch => ?_, ?_⟩
  · cases deployed with
    | none =>
      cases returned
      exact absurd rfl isMatch
    | some code =>
      obtain ⟨sameSize, ground, holds, gives⟩ := ground_of_match returned isMatch
      exact ⟨code, rfl, sameSize, ground, holds, gives, fun other also => Ground.unique holds also⟩
  · rintro code rfl sameSize
    refine ⟨fun ground holds => match_of_ground sameSize holds, ?_⟩
    intro args hex different filled used
    exact match_of_creation_and_digits sameSize different filled hex used

/-- Two codes of one instruction each, and creation data with one capital byte behind the creation
code. -/
theorem verdicts_justified_of_arguments :
    (Compared.of "6001" "0x6002" "0x60" (.ok (some "0x60AB"))).SameSize ∧
    ∀ world session, (compareBytecodes (some "6001") (some "0x60AB") (some "0x6002") (some "0x60")
      (Action.fail .nullInPath) world session).1 = .ok ⟨.exact, some "0xab"⟩ := by
  have sameSize : (Compared.of "6001" "0x6002" "0x60" (.ok (some "0x60AB"))).SameSize :=
    ⟨by decide +kernel, by decide +kernel⟩
  have hex : ∀ c ∈ "AB".toList, Bytecode.IsHexDigit c := by
    intro c member
    have isDigit : c ∈ ['A', 'B'] := member
    simp only [List.mem_cons, List.not_mem_nil, or_false] at isDigit
    rcases isDigit with rfl | rfl
    · rfl
    · rfl
  have used (answer : Except Fault (Option String)) : dataUsed (some "0x60AB") answer
      = .ok (some (Bytecode.normalize "0x60" ++ "AB")) := by
    rw [show Bytecode.normalize "0x60" = "0x60" by decide +kernel]
    rfl
  have args : "0x" ++ Text.lower "AB" = "0xab" := by decide +kernel
  refine ⟨sameSize, fun world session => ?_⟩
  obtain ⟨-, complete⟩ := verdicts_justified (some "6001") (some "0x60AB") "0x6002" "0x60"
    (Action.fail .nullInPath) world session
  have found := (complete "6001" rfl sameSize).2 "AB" hex (by decide +kernel) (by decide +kernel)
    (used _)
  rwa [if_neg (by decide), args] at found

/-- Empty creation data begin with the creation code without its trailer, if that is all there is of
it, and give no match. -/
theorem no_match_by_empty_data :
    let codes := Compared.of "0x6001" "0x6002" "0xa100010003" (.ok (some "0x"))
    codes.SameSize ∧ Bytecode.trim codes.deployed ≠ Bytecode.trim codes.runtime ∧
    codes.data = some "0x" ∧ ¬ Begins codes.creation "0x" ∧
    Begins (Bytecode.trim codes.creation) "0x" ∧
    ∀ fetch world session, (compareBytecodes (some "0x6001") (some "0x") (some "0x6002")
      (some "0xa100010003") fetch world session).1 = .ok .noMatch := by
  have other : ¬ Begins (Bytecode.normalize "0xa100010003") "0x" := by
    rw [← startsWith_iff]
    decide +kernel
  have begins : Begins (Bytecode.trim (Bytecode.normalize "0xa100010003")) "0x" := by
    rw [← startsWith_iff]
    decide +kernel
  have different : Bytecode.trim (Bytecode.normalize "0x6001")
      ≠ Bytecode.trim (Bytecode.normalize "0x6002") := by decide +kernel
  have sizes : (Bytecode.trim (Bytecode.normalize "0x6001")).length
      = (Bytecode.trim (Bytecode.normalize "0x6002")).length := by decide +kernel
  have undecided := compareRuntime_of_sizes different sizes
  refine ⟨⟨by decide +kernel, sizes⟩, different, by decide +kernel, other, begins, ?_⟩
  intro fetch world session
  rw [compareBytecodes_of_undecided (by decide +kernel) undecided, dataUsed, if_neg (by decide), judge,
    if_pos (by decide +kernel)]

end SourceAttest
