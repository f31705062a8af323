import SourceAttest.Compiler.Recompile
import SourceAttest.Proofs.Action
import SourceAttest.Proofs.Compiler.Input
import SourceAttest.Proofs.Contract.Refusals

/-!
# What recompiling comes to

The compiler may be missing, fail or write any text. From what it writes an artifact is taken
(`Yields`), or the run is reported as a failed compilation (`Complains`). The main result
`recompile_outcome` says that recompiling has these two outcomes exactly then, and that whatever else the
compiler writes ends it with a fault of another kind.
-/
namespace SourceAttest.Compiler

open SourceAttest.Action

/-! ### Reports -/

/-- The reports in an output, all of them objects. -/
def Reports (output : Json) (reports : List Json) : Prop :=
  (do (← output.memberOr "errors" (.array [])).items) = Except.ok reports ∧
    ∀ report ∈ reports, ∃ members, report = .object members

/-- Whether a report is about an error, and not about something milder. -/
def isSevere (report : Json) : Bool := report.at? ["severity"] = some (.string "error")

/-- The message of a report: the formatted one unless it counts as absent, else the plain one. -/
def said? : Json → Option String
  | .object members =>
    let formatted := (Table.get? "formattedMessage" members).getD .null
    if formatted.isTruthy then formatted.text?
    else ((Table.get? "message" members).getD (.string "")).text?
  | _ => none

section

variable {output report : Json}

theorem isError_object (members : List (String × Json)) :
    isError (.object members) = .ok (isSevere (.object members)) := by
  rw [isError, Json.memberOr_object, isSevere, Json.at?_object]
  apply congrArg Except.ok
  apply Bool.eq_iff_iff.mpr
  rw [Json.equals_string_iff, decide_eq_true_eq]
  cases Table.get? "severity" members <;> simp

theorem isError_eq_ok {answer : Bool} (told : isError report = .ok answer) :
    answer = isSevere report ∧ ∃ members, report = .object members := by
  cases report with
  | object members =>
    rw [isError_object] at told
    exact ⟨(Except.ok.inj told).symm, members, rfl⟩
  | _ => cases told

theorem outputErrors_eq_ok_iff {severe : List Json} :
    outputErrors output = .ok severe ↔
      ∃ reports, Reports output reports ∧ severe = reports.filter isSevere := by
  have filtered {reports : List Json} : reports.filterM isError = .ok severe ↔
      (∀ report ∈ reports, isError report = .ok (isSevere report)) ∧
        severe = reports.filter isSevere :=
    Outcome.filterM_eq_ok_iff fun report answer told => (isError_eq_ok told).1
  rw [outputErrors, Outcome.bind_eq_ok]
  -- Filtering looks into every report, so a report that is no object spoils all of them.
  constructor
  · rintro ⟨value, isValue, opening⟩
    obtain ⟨reports, listed, filters⟩ := Outcome.bind_eq_ok.mp opening
    obtain ⟨told, same⟩ := filtered.mp filters
    refine ⟨reports, ⟨Outcome.bind_eq_ok.mpr ⟨value, isValue, listed⟩, ?_⟩, same⟩
    exact fun report member => (isError_eq_ok (told report member)).2
  · rintro ⟨reports, ⟨listed, objects⟩, same⟩
    obtain ⟨value, isValue, listed⟩ := Outcome.bind_eq_ok.mp listed
    refine ⟨value, isValue, Outcome.bind_eq_ok.mpr ⟨reports, listed, filtered.mpr ⟨?_, same⟩⟩⟩
    intro report member
    obtain ⟨members, rfl⟩ := objects report member
    exact isError_object members

theorem reportMessage_eq_ok_iff {message : String} :
    reportMessage report = .ok message ↔ said? report = some message := by
  cases report with
  | object members =>
    rw [reportMessage, Json.memberOr_object, Json.memberOr_object, said?]
    generalize (Table.get? "formattedMessage" members).getD .null = formatted
    generalize (Table.get? "message" members).getD (.string "") = plain
    dsimp only [bind, Except.bind, pure, Except.pure]
    split
    · cases formatted <;> simp [Json.text?]
    · cases plain <;> simp [Json.text?]
  | _ => exact ⟨by rintro ⟨⟩, by rintro ⟨⟩⟩

end

/-! ### The target -/

/-- What an output holds for a target. -/
def Compiled (file : String) (name output target : Json) : Prop :=
  ∃ contracts, output.at? ["contracts", file] = some contracts ∧ contracts.select name = .ok target

/-- An output does not hold a target: one of the objects on the way lacks the next name. -/
inductive Lacks (file : String) (name : Json) : Json → Prop
  | contracts {members : List (String × Json)} (absent : Table.get? "contracts" members = none) :
      Lacks file name (.object members)
  | file {output : Json} {members : List (String × Json)}
      (listed : output.at? ["contracts"] = some (.object members))
      (absent : Table.get? file members = none) : Lacks file name output
  | name {output missing : Json} {members : List (String × Json)}
      (listed : output.at? ["contracts", file] = some (.object members))
      (absent : (Json.object members).select name = .error (.noMember missing)) :
      Lacks file name output

/-- Looking up a target, one name after the other. -/
def lookup (file : String) (name output : Json) : Except ShapeFault Json := do
  (← (← output.member "contracts").member file).select name

section

variable {file kind code : String} {name output target : Json}

theorem lookup_eq_ok_iff : lookup file name output = .ok target ↔ Compiled file name output target := by
  rw [lookup, Compiled]
  simp only [Outcome.bind_eq_ok, Json.member_eq_ok_iff, Json.at?_cons output "contracts" [file],
    Option.bind_eq_some_iff]
  constructor
  · rintro ⟨contracts, listed, inner, found, selected⟩
    exact ⟨inner, ⟨contracts, listed, found⟩, selected⟩
  · rintro ⟨inner, ⟨contracts, listed, found⟩, selected⟩
    exact ⟨contracts, listed, inner, found, selected⟩

theorem lacks_of_lookup {missing : Json}
    (failed : lookup file name output = .error (.noMember missing)) : Lacks file name output := by
  -- The lookup goes down three times, and any of them may be the one that fails.
  rcases Outcome.bind_eq_error failed with failed | ⟨contracts, listed, failed⟩
  · obtain ⟨-, members, rfl, absent⟩ := Json.member_eq_noMember_iff.mp failed
    exact .contracts absent
  have listed := Json.member_eq_ok_iff.mp listed
  rcases Outcome.bind_eq_error failed with failed | ⟨inner, found, failed⟩
  · obtain ⟨-, members, rfl, absent⟩ := Json.member_eq_noMember_iff.mp failed
    exact .file listed absent
  · obtain ⟨members, rfl⟩ := Json.eq_object_of_select failed
    refine .name ?_ failed
    rw [Json.at?_cons, listed]
    exact Json.member_eq_ok_iff.mp found

theorem lookup_of_lacks (lacks : Lacks file name output) :
    ∃ missing, lookup file name output = .error (.noMember missing) := by
  cases lacks with
  | contracts absent =>
    have failed := Json.member_eq_noMember_iff.mpr ⟨rfl, _, rfl, absent⟩
    refine ⟨.string "contracts", ?_⟩
    rw [lookup, failed]
    rfl
  | file listed absent =>
    have failed := Json.member_eq_noMember_iff.mpr ⟨rfl, _, rfl, absent⟩
    refine ⟨.string file, ?_⟩
    rw [lookup, Json.member_eq_ok_iff.mpr listed]
    change (Json.member file _ >>= _) = _
    rw [failed]
    rfl
  | @name _ missing members listed absent =>
    obtain ⟨contracts, isObject, inner⟩ := Option.bind_eq_some_iff.mp
      ((Json.at?_cons output "contracts" [file]).symm.trans listed)
    refine ⟨missing, ?_⟩
    rw [lookup, Json.member_eq_ok_iff.mpr isObject]
    change (Json.member file contracts >>= _) = _
    rw [Json.member_eq_ok_iff.mpr inner]
    exact absent

theorem codeOutput_eq_ok_iff :
    codeOutput kind target = .ok code ↔
      ∃ text, (target.at? ["evm", kind, "object"]).bind Json.text? = some text ∧
        code = "0x" ++ Text.lower text := by
  rw [codeOutput]
  simp only [Outcome.bind_eq_ok, Json.member_eq_ok_iff, Json.at?_cons target "evm" [kind, "object"],
    Json.at?_cons _ kind ["object"], Option.bind_eq_some_iff, Json.text_eq_ok_iff]
  constructor
  · rintro ⟨evm, isEvm, part, isPart, object, isObject, text, isText, returned⟩
    cases returned
    exact ⟨text, ⟨object, ⟨evm, isEvm, part, isPart, isObject⟩, isText⟩, rfl⟩
  · rintro ⟨text, ⟨object, ⟨evm, isEvm, part, isPart, isObject⟩, isText⟩, rfl⟩
    exact ⟨evm, isEvm, part, isPart, object, isObject, text, isText, rfl⟩

theorem targetOutput_eq_ok_iff :
    targetOutput file name output = .ok target ↔ Compiled file name output target := by
  rw [← lookup_eq_ok_iff, targetOutput, ← lookup]
  cases lookup file name output with
  | ok found => simp
  | error why => cases why <;> simp

theorem targetOutput_of_lacks (lacks : Lacks file name output) :
    targetOutput file name output = .error (.compilation (.targetNotCompiled file name.plain)) := by
  obtain ⟨missing, looked⟩ := lookup_of_lacks lacks
  rw [targetOutput, ← lookup, looked]

theorem cases_of_targetOutput {fault : Fault} (failed : targetOutput file name output = .error fault) :
    Lacks file name output ∧ fault = .compilation (.targetNotCompiled file name.plain) ∨
      ∃ why, fault = .shape why := by
  rw [targetOutput, ← lookup] at failed
  cases looked : lookup file name output with
  | ok found =>
    rw [looked] at failed
    cases failed
  | error reason =>
    rw [looked] at failed
    cases reason with
    | noMember missing =>
      cases failed
      exact .inl ⟨lacks_of_lookup looked, rfl⟩
    | _ =>
      cases failed
      exact .inr ⟨_, rfl⟩

end

/-! ### Outputs -/

/-- The artifact that an output offers for a target: its two codes in lower case and its document. No
report in the output is about an error. -/
inductive Offers (file : String) (name output : Json) : CompiledArtifact → Prop
  | target {runtime creation : String} {target document : Json} {reports : List Json}
      (listed : Reports output reports) (clean : ∀ report ∈ reports, isSevere report = false)
      (compiled : Compiled file name output target)
      (runs : (target.at? ["evm", "deployedBytecode", "object"]).bind Json.text? = some runtime)
      (creates : (target.at? ["evm", "bytecode", "object"]).bind Json.text? = some creation)
      (documents : target.at? ["metadata"] = some document) :
      Offers file name output
        ⟨.string ("0x" ++ Text.lower runtime), .string ("0x" ++ Text.lower creation), document⟩

/-- An output that counts as a failed compilation, and as which one: it reports errors, or it reports
none and has no such target. -/
inductive Denies (file : String) (name output : Json) : CompilationFault → Prop
  | reported {reports : List Json} {messages : List String} (listed : Reports output reports)
      (severe : ∃ report ∈ reports, isSevere report = true)
      (said : (reports.filter isSevere).map said? = messages.map some) :
      Denies file name output (.reported messages)
  | notCompiled {reports : List Json} (listed : Reports output reports)
      (clean : ∀ report ∈ reports, isSevere report = false) (lacks : Lacks file name output) :
      Denies file name output (.targetNotCompiled file name.plain)

section

variable {file : String} {name output : Json} {artifact : CompiledArtifact} {reports : List Json}

theorem isEmpty_filter_isSevere :
    (reports.filter isSevere).isEmpty = true ↔ ∀ report ∈ reports, isSevere report = false := by
  rw [List.isEmpty_iff, List.filter_eq_nil_iff]
  simp

theorem clean_or_severe (reports : List Json) :
    (∀ report ∈ reports, isSevere report = false) ∨ ∃ report ∈ reports, isSevere report = true := by
  rcases Outcome.all_or_first (isSevere · = false) reports with clean | ⟨_, report, _, rfl, -, severe⟩
  · exact .inl clean
  · exact .inr ⟨report, by simp, Bool.not_eq_false _ ▸ severe⟩

theorem outputErrors_of_reports (listed : Reports output reports) :
    outputErrors output = .ok (reports.filter isSevere) :=
  outputErrors_eq_ok_iff.mpr ⟨reports, listed, rfl⟩

/-- What becomes of an output in which no report is about an error. -/
theorem artifactOf_of_clean (listed : Reports output reports)
    (clean : ∀ report ∈ reports, isSevere report = false) :
    artifactOf file name output = (do
      let target ← targetOutput file name output
      let runtime ← (codeOutput "deployedBytecode" target).mapError .shape
      let creation ← (codeOutput "bytecode" target).mapError .shape
      return ⟨.string runtime, .string creation, ← (target.member "metadata").mapError .shape⟩) := by
  rw [artifactOf, outputErrors_of_reports listed]
  change (if (!(reports.filter isSevere).isEmpty) = true then _ else _) = _
  rw [isEmpty_filter_isSevere.mpr clean]
  rfl

theorem artifactOf_of_severe (listed : Reports output reports)
    (severe : ∃ report ∈ reports, isSevere report = true) :
    artifactOf file name output
      = ((reports.filter isSevere).mapM reportMessage).mapError .shape >>= fun messages =>
          .error (.compilation (.reported messages)) := by
  rw [artifactOf, outputErrors_of_reports listed]
  change (if (!(reports.filter isSevere).isEmpty) = true then _ else _) = _
  rw [if_pos]
  obtain ⟨report, member, isSevere'⟩ := severe
  rw [Bool.not_eq_true', Bool.eq_false_iff]
  intro empty
  rw [isEmpty_filter_isSevere.mp empty report member] at isSevere'
  cases isSevere'

theorem artifactOf_eq_ok_iff :
    artifactOf file name output = .ok artifact ↔ Offers file name output artifact := by
  constructor
  · intro returned
    obtain ⟨severe, listed, -⟩ := Outcome.bind_eq_ok.mp returned
    obtain ⟨reports, listed, -⟩ := outputErrors_eq_ok_iff.mp (Outcome.mapError_eq_ok.mp listed)
    rcases clean_or_severe reports with clean | severe
    · rw [artifactOf_of_clean listed clean] at returned
      obtain ⟨target, found, returned⟩ := Outcome.bind_eq_ok.mp returned
      obtain ⟨runtime, runs, returned⟩ := Outcome.bind_eq_ok.mp returned
      obtain ⟨creation, creates, returned⟩ := Outcome.bind_eq_ok.mp returned
      obtain ⟨document, documents, returned⟩ := Outcome.bind_eq_ok.mp returned
      cases returned
      obtain ⟨_, isRuntime, rfl⟩ := codeOutput_eq_ok_iff.mp (Outcome.mapError_eq_ok.mp runs)
      obtain ⟨_, isCreation, rfl⟩ := codeOutput_eq_ok_iff.mp (Outcome.mapError_eq_ok.mp creates)
      exact .target listed clean (targetOutput_eq_ok_iff.mp found) isRuntime isCreation
        (Json.member_eq_ok_iff.mp (Outcome.mapError_eq_ok.mp documents))
    · -- Whatever the errors say, nothing is made of an output that reports some.
      rw [artifactOf_of_severe listed severe] at returned
      obtain ⟨_, _, returned⟩ := Outcome.bind_eq_ok.mp returned
      cases returned
  · intro offers
    cases offers with
    | target listed clean compiled runs creates documents =>
      rw [artifactOf_of_clean listed clean]
      apply Outcome.bind_eq_ok.mpr ⟨_, targetOutput_eq_ok_iff.mpr compiled, ?_⟩
      have runtime := codeOutput_eq_ok_iff.mpr ⟨_, runs, rfl⟩
      have creation := codeOutput_eq_ok_iff.mpr ⟨_, creates, rfl⟩
      exact Outcome.bind_eq_ok.mpr ⟨_, Outcome.mapError_eq_ok.mpr runtime,
        Outcome.bind_eq_ok.mpr ⟨_, Outcome.mapError_eq_ok.mpr creation,
          Outcome.bind_eq_ok.mpr ⟨_, Outcome.mapError_eq_ok.mpr
            (Json.member_eq_ok_iff.mpr documents), rfl⟩⟩⟩

theorem artifactOf_of_denies {why : CompilationFault} (denies : Denies file name output why) :
    artifactOf file name output = .error (.compilation why) := by
  cases denies with
  | reported listed severe said =>
    have messages := (Outcome.mapM_eq_ok_iff fun _ _ => reportMessage_eq_ok_iff).mpr said
    rw [artifactOf_of_severe listed severe, messages]
    rfl
  | notCompiled listed clean lacks =>
    rw [artifactOf_of_clean listed clean, targetOutput_of_lacks lacks]
    rfl

/-- There are two reasons why no artifact is made: the output denies it, or has another shape. -/
theorem cases_of_artifactOf {fault : Fault} (failed : artifactOf file name output = .error fault) :
    (∃ why, fault = .compilation why ∧ Denies file name output why) ∨ ∃ why, fault = .shape why := by
  cases errors : outputErrors output with
  | error why =>
    rw [artifactOf, errors] at failed
    cases failed
    exact .inr ⟨why, rfl⟩
  | ok severe =>
    obtain ⟨reports, listed, -⟩ := outputErrors_eq_ok_iff.mp errors
    rcases clean_or_severe reports with clean | severe
    · rw [artifactOf_of_clean listed clean] at failed
      rcases Outcome.bind_eq_error failed with absent | ⟨target, -, failed⟩
      · rcases cases_of_targetOutput absent with ⟨lacks, rfl⟩ | shaped
        · exact .inl ⟨_, rfl, .notCompiled listed clean lacks⟩
        · exact .inr shaped
      -- The parts of a target are read in turn, and each may have another shape.
      rcases Outcome.bind_eq_error failed with unread | ⟨runtime, -, failed⟩
      · exact .inr (Fault.eq_shape_of_mapError unread)
      rcases Outcome.bind_eq_error failed with unread | ⟨creation, -, failed⟩
      · exact .inr (Fault.eq_shape_of_mapError unread)
      rcases Outcome.bind_eq_error failed with unread | ⟨document, -, returned⟩
      · exact .inr (Fault.eq_shape_of_mapError unread)
      · cases returned
    · rw [artifactOf_of_severe listed severe] at failed
      rcases Outcome.bind_eq_error failed with unread | ⟨messages, read, reported⟩
      · exact .inr (Fault.eq_shape_of_mapError unread)
      · cases reported
        have said := (Outcome.mapM_eq_ok_iff fun _ _ => reportMessage_eq_ok_iff).mp
          (Outcome.mapError_eq_ok.mp read)
        exact .inl ⟨_, rfl, .reported listed severe said⟩

end

/-! ### Runs -/

/-- What a run of the compiler yields. -/
inductive Yields (file : String) (name : Json) : CompilerOutcome → CompiledArtifact → Prop
  | artifact {text : String} {output : Json} {artifact : CompiledArtifact}
      (read : Json.read text = .ok output) (offers : Offers file name output artifact) :
      Yields file name (.finished text) artifact

/-- A run of the compiler that counts as a failed compilation, and as which one. -/
inductive Complains (program file : String) (name : Json) : CompilerOutcome → CompilationFault → Prop
  | notFound : Complains program file name .notFound (.compilerNotFound program)
  | failed (output : String) : Complains program file name (.failed output) (.compilerFailed output)
  | unreadable {text : String} {why : Json.ReadError} (read : Json.read text = .error why)
      (malformed : why.isMalformed = true) :
      Complains program file name (.finished text) (.outputUnreadable why)
  | denied {text : String} {output : Json} {why : CompilationFault}
      (read : Json.read text = .ok output) (denies : Denies file name output why) :
      Complains program file name (.finished text) why

/-- What a run of the compiler comes to. -/
def runOutcome (program file : String) (name : Json) (outcome : CompilerOutcome) :
    Except Fault CompiledArtifact :=
  (outputOf program outcome).bind (artifactOf file name)

section

variable {program file : String} {name : Json} {artifact : CompiledArtifact} {outcome : CompilerOutcome}

theorem outputOf_of_read {text : String} {output : Json} (read : Json.read text = .ok output) :
    outputOf program (.finished text) = .ok output := by
  rw [outputOf, read]

theorem outputOf_of_unread {text : String} {why : Json.ReadError} (read : Json.read text = .error why) :
    outputOf program (.finished text)
      = .error (if why.isMalformed then .compilation (.outputUnreadable why) else .unreadable why) := by
  rw [outputOf, read]
  cases why <;> rfl

theorem runOutcome_of_yields (yields : Yields file name outcome artifact) :
    runOutcome program file name outcome = .ok artifact := by
  cases yields with
  | artifact read offers =>
    rw [runOutcome, outputOf_of_read read]
    exact artifactOf_eq_ok_iff.mpr offers

theorem runOutcome_of_complains {why : CompilationFault}
    (complains : Complains program file name outcome why) :
    runOutcome program file name outcome = .error (.compilation why) := by
  cases complains with
  | notFound => rfl
  | failed output => rfl
  | unreadable read malformed =>
    rw [runOutcome, outputOf_of_unread read, if_pos malformed]
    rfl
  | denied read denies =>
    rw [runOutcome, outputOf_of_read read]
    exact artifactOf_of_denies denies

/-- A run yields something, counts as a failed compilation, or ends with a fault of another kind. -/
theorem cases_of_runOutcome (program file : String) (name : Json) (outcome : CompilerOutcome) :
    (∃ artifact, Yields file name outcome artifact) ∨
    (∃ why, Complains program file name outcome why) ∨
    ∃ fault, runOutcome program file name outcome = .error fault ∧
      ((∃ why, fault = .shape why) ∨ ∃ why, fault = .unreadable why) := by
  cases outcome with
  | notFound => exact .inr (.inl ⟨_, .notFound⟩)
  | failed output => exact .inr (.inl ⟨_, .failed output⟩)
  | finished text =>
    cases read : Json.read text with
    | error why =>
      by_cases malformed : why.isMalformed = true
      · exact .inr (.inl ⟨_, .unreadable read malformed⟩)
      · refine .inr (.inr ⟨.unreadable why, ?_, .inr ⟨why, rfl⟩⟩)
        rw [runOutcome, outputOf_of_unread read, if_neg malformed]
        rfl
    | ok output =>
      cases made : artifactOf file name output with
      | ok artifact => exact .inl ⟨artifact, .artifact read (artifactOf_eq_ok_iff.mp made)⟩
      | error fault =>
        rcases cases_of_artifactOf made with ⟨why, rfl, denies⟩ | shaped
        · exact .inr (.inl ⟨why, .denied read denies⟩)
        · refine .inr (.inr ⟨fault, ?_, .inl shaped⟩)
          rw [runOutcome, outputOf_of_read read]
          exact made

theorem runOutcome_eq_ok_iff :
    runOutcome program file name outcome = .ok artifact ↔ Yields file name outcome artifact := by
  refine ⟨fun returned => ?_, runOutcome_of_yields⟩
  rcases cases_of_runOutcome program file name outcome with
    ⟨other, yields⟩ | ⟨why, complains⟩ | ⟨fault, failed, -⟩
  · cases (runOutcome_of_yields yields).symm.trans returned
    exact yields
  · cases (runOutcome_of_complains complains).symm.trans returned
  · cases failed.symm.trans returned

theorem cases_of_runOutcome_eq_error {fault : Fault}
    (failed : runOutcome program file name outcome = .error fault) :
    (∃ why, fault = .compilation why ∧ Complains program file name outcome why) ∨
      (∃ why, fault = .shape why) ∨ ∃ why, fault = .unreadable why := by
  rcases cases_of_runOutcome program file name outcome with
    ⟨artifact, yields⟩ | ⟨why, complains⟩ | ⟨other, failed', strays⟩
  · cases (runOutcome_of_yields yields).symm.trans failed
  · cases (runOutcome_of_complains complains).symm.trans failed
    exact .inl ⟨why, rfl, complains⟩
  · cases failed'.symm.trans failed
    exact .inr strays

theorem runOutcome_eq_compilation_iff {why : CompilationFault} :
    runOutcome program file name outcome = .error (.compilation why) ↔
      Complains program file name outcome why := by
  refine ⟨fun failed => ?_, runOutcome_of_complains⟩
  rcases cases_of_runOutcome_eq_error failed with ⟨_, ⟨⟩, complains⟩ | ⟨_, ⟨⟩⟩ | ⟨_, ⟨⟩⟩
  exact complains

end

/-! ### Recompiling -/

/-- The version of the compiler that a document names; null if it names none. -/
def versionOf (metadata : Json) : Except ShapeFault Json := do
  (← metadata.memberOr "compiler" (.object [])).memberOr "version" .null

/-- The compiler is run once on the input, and then everything depends on what it comes to. The version
is only reported, but it is looked for first. -/
theorem recompile_run {path : Option String} {logger : Logger} {metadata sources input name : Json}
    {file : String} {world : World} {session : Session}
    (target : Contract.target (.compilation .targetNotSingle) metadata = .ok (file, name))
    (made : standardInput metadata sources = .ok input) :
    (recompile path logger metadata sources world session).1
      = (versionOf metadata).mapError .shape >>= fun _ =>
          runOutcome (choose path world.environment) file name
            (world.compiler ⟨choose path world.environment, input.write⟩) := by
  rw [recompile, bind_of_ok rfl, target, bind_of_ok rfl, ← versionOf]
  dsimp only
  cases versionOf metadata with
  | error why => rfl
  | ok version =>
    -- The call is reported, the input is made and the compiler is run: none of these fails.
    rw [bind_of_ok rfl, bind_of_ok rfl, made, bind_of_ok rfl, bind_of_ok rfl]
    change _ = runOutcome _ _ _ _
    rw [runOutcome]
    cases outputOf (choose path world.environment)
        (world.compiler ⟨choose path world.environment, input.write⟩) with
    | error fault => rfl
    | ok output => exact congrArg Prod.fst (ofExcept_run (artifactOf file name output))

/-- Recompiling a document whose sources are at hand runs the compiler on its input. It returns an
artifact if and only if the run yields it, and it is a failed compilation if and only if the run counts
as one. Whatever else comes of it is a fault of the shape of a document, or of a text that is no JSON. -/
theorem recompile_outcome {metadata name : Json} {file : String}
    {specs settings : List (String × Json)} {contents : Table String String}
    (described : Described metadata specs settings)
    (supplied : ∀ entry ∈ specs, Supplied contents entry.1 entry.2)
    (records : Contract.Records metadata (.object [(file, name)])) (path : Option String)
    (logger : Logger) (world : World) (session : Session) :
    ∃ input, standardInput metadata (.ofTexts contents) = .ok input ∧
      (∀ artifact, (recompile path logger metadata (.ofTexts contents) world session).1 = .ok artifact ↔
        (∃ version, versionOf metadata = .ok version) ∧
          Yields file name (world.compiler ⟨choose path world.environment, input.write⟩) artifact) ∧
      (∀ why, (recompile path logger metadata (.ofTexts contents) world session).1
          = .error (.compilation why) ↔
        (∃ version, versionOf metadata = .ok version) ∧
          Complains (choose path world.environment) file name
            (world.compiler ⟨choose path world.environment, input.write⟩) why) ∧
      ∀ fault, (recompile path logger metadata (.ofTexts contents) world session).1 = .error fault →
        (∃ why, fault = .compilation why) ∨ (∃ why, fault = .shape why) ∨
          ∃ why, fault = .unreadable why := by
  obtain ⟨sources, carried, made, -⟩ := standardInput_of_supplied described supplied
  refine ⟨_, made, ?_⟩
  rw [recompile_run (Contract.target_of_entry records) made]
  generalize world.compiler _ = outcome
  cases versionOf metadata with
  | error why =>
    -- Here the compiler is not run, so it does not matter what it would have come to.
    refine ⟨fun artifact => ⟨by rintro ⟨⟩, by rintro ⟨⟨_, ⟨⟩⟩, -⟩⟩,
      fun other => ⟨by rintro ⟨⟩, by rintro ⟨⟨_, ⟨⟩⟩, -⟩⟩, fun fault failed => ?_⟩
    cases failed
    exact .inr (.inl ⟨why, rfl⟩)
  | ok version =>
    change (∀ artifact, runOutcome _ file name outcome = .ok artifact ↔ _) ∧
      (∀ why, runOutcome _ file name outcome = .error (.compilation why) ↔ _) ∧
      ∀ fault, runOutcome _ file name outcome = .error fault → _
    refine ⟨fun artifact => ?_, fun why => ?_, fun fault failed => ?_⟩
    · rw [runOutcome_eq_ok_iff, and_iff_right ⟨version, rfl⟩]
    · rw [runOutcome_eq_compilation_iff, and_iff_right ⟨version, rfl⟩]
    · rcases cases_of_runOutcome_eq_error failed with ⟨why, rfl, -⟩ | strays
      · exact .inl ⟨why, rfl⟩
      · exact .inr strays

namespace Sample

/-- The compiler comes to this whatever it is given. -/
def world (outcome : CompilerOutcome) : World := ⟨fun _ _ => .failed "offline", [], fun _ => outcome, []⟩

def logger : Logger := ⟨none, none⟩

/-- An output with a warning, and with the codes of the target in capitals. -/
def output : Json := .object [
  ("errors", .array [.object [("severity", .string "warning")]]),
  ("contracts", .object [("a.sol", .object [("A", .object [
    ("evm", .object [
      ("deployedBytecode", .object [("object", .string "AB")]),
      ("bytecode", .object [("object", .string "60AB")])]),
    ("metadata", .string "a document")])])])]

def outputText : String :=
  "\x7b\"errors\": [\x7b\"severity\": \"warning\"\x7d], " ++
  "\"contracts\": \x7b\"a.sol\": \x7b\"A\": \x7b\"evm\": \x7b" ++
  "\"deployedBytecode\": \x7b\"object\": \"AB\"\x7d, \"bytecode\": \x7b\"object\": \"60AB\"\x7d\x7d, " ++
  "\"metadata\": \"a document\"\x7d\x7d\x7d\x7d"

theorem yields : Yields "a.sol" (.string "A") (.finished outputText)
    ⟨.string "0xab", .string "0x60ab", .string "a document"⟩ := by
  have read : Json.read outputText = .ok output := Outcome.eq_ok_of_toOption (by decide +kernel)
  exact .artifact read (artifactOf_eq_ok_iff.mp rfl)

end Sample

/-- The document is recompiled to its target, in lower case, and not without a compiler. -/
theorem recompile_outcome_of_two :
    Described Sample.metadata Sample.specs Sample.settings ∧
    (∀ entry ∈ Sample.specs, Supplied Sample.contents entry.1 entry.2) ∧
    Contract.Records Sample.metadata (.object [("a.sol", .string "A")]) ∧
    (recompile none Sample.logger Sample.metadata (.ofTexts Sample.contents)
        (Sample.world (.finished Sample.outputText)) (Session.fresh [])).1
      = .ok ⟨.string "0xab", .string "0x60ab", .string "a document"⟩ ∧
    (recompile none Sample.logger Sample.metadata (.ofTexts Sample.contents)
        (Sample.world .notFound) (Session.fresh [])).1
      = .error (.compilation (.compilerNotFound "solc")) := by
  refine ⟨Sample.described, Sample.supplied, rfl, ?_, ?_⟩
  · obtain ⟨input, -, returns, -⟩ := recompile_outcome Sample.described Sample.supplied rfl none
      Sample.logger (Sample.world (.finished Sample.outputText)) (Session.fresh [])
    exact (returns _).mpr ⟨⟨.null, rfl⟩, Sample.yields⟩
  · obtain ⟨input, -, -, complains, -⟩ := recompile_outcome Sample.described Sample.supplied rfl none
      Sample.logger (Sample.world .notFound) (Session.fresh [])
    exact (complains _).mpr ⟨⟨.null, rfl⟩, .notFound⟩

/-- A compiler that writes `null` makes recompiling end with a fault that is no failed compilation. -/
theorem recompile_of_null_output :
    Described Sample.metadata Sample.specs Sample.settings ∧
    (∀ entry ∈ Sample.specs, Supplied Sample.contents entry.1 entry.2) ∧
    Contract.Records Sample.metadata (.object [("a.sol", .string "A")]) ∧
    (recompile none Sample.logger Sample.metadata (.ofTexts Sample.contents)
        (Sample.world (.finished "null")) (Session.fresh [])).1
      = .error (.shape (.noOperation "NoneType" "get")) ∧
    (Fault.shape (.noOperation "NoneType" "get")).kind ≠ .compilation := by
  refine ⟨Sample.described, Sample.supplied, rfl, ?_, by decide⟩
  obtain ⟨sources, carried, made, -⟩ := standardInput_of_supplied Sample.described Sample.supplied
  have target : Contract.target (.compilation .targetNotSingle) Sample.metadata
      = .ok ("a.sol", .string "A") := rfl
  rw [recompile_run target made]
  rfl

end SourceAttest.Compiler
