import SourceAttest.Proofs.Compiler.Libraries
import SourceAttest.Proofs.Compiler.Recompile
import SourceAttest.Proofs.Json.RoundTrip

/-!
# What the compiler reads

The compiler reads the input that was checked, and nothing else: the text on its standard input is
printable ASCII and reads as that input, down to the order of names (`recompile_renders_input`). For this
the parts of an input have to be such that a text can hold them. They come from the document and from the
contents, and putting them together binds no name twice.
-/
namespace SourceAttest

namespace Json.Exact

variable {value found : Json} {entries : List (String × Json)} {name operation : String}

theorem of_get? (exact : Exact (.object entries)) (bound : Table.get? name entries = some found) :
    Exact found := by
  exact (exact_object.mp exact).2 (name, found) (Table.mem_of_get? bound)

theorem members (exact : Exact value) (opened : value.members operation = .ok entries) :
    Exact (.object entries) := by
  rwa [Json.eq_object_of_members opened] at exact

theorem memberOr (exact : Exact value) {default : Json} (other : Exact default)
    (read : value.memberOr name default = .ok found) : Exact found := by
  obtain ⟨entries, opened, rfl⟩ := Outcome.map_eq_ok.mp read
  have exact := exact.members opened
  cases bound : Table.get? name entries with
  | none => exact other
  | some found => exact exact.of_get? bound

theorem put (exact : Exact (.object entries)) (whole : Exact value) (name : String) :
    Exact (.object (Table.put name value entries)) := by
  obtain ⟨distinct, each⟩ := exact_object.mp exact
  refine .object (Table.nodup_keys_put distinct name value) fun member bound => ?_
  rcases Table.mem_put bound with rfl | old
  · exact whole
  · exact each member old

theorem filter (exact : Exact (.object entries)) (keeps : String × Json → Bool) :
    Exact (.object (entries.filter keeps)) := by
  obtain ⟨distinct, each⟩ := exact_object.mp exact
  refine .object (distinct.sublist (List.filter_sublist.map Prod.fst)) fun member kept => ?_
  exact each member (List.mem_filter.mp kept).1

theorem empty : Exact (.object []) := .object List.nodup_nil (List.forall_mem_nil _)

/-- An object with a single member binds no name twice. -/
theorem single (exact : Exact value) (name : String) : Exact (.object [(name, value)]) :=
  .object (List.pairwise_singleton _ name) (List.forall_mem_singleton.mpr exact)

end Json.Exact

namespace Compiler

open SourceAttest.Action
open Json (Exact)

/-! ### The parts of an input -/

section

variable {metadata input spec : Json} {specs listed settings carried : List (String × Json)}
  {sources : List (String × Json)}

theorem exact_outputSelection : Exact outputSelection := by
  simp [outputSelection, Table.keys]

theorem groupedObject_put (file : String) (libraries : Table String Json)
    (grouped : Table String (Table String Json)) :
    groupedObject (grouped.put file libraries) = .object (Table.put file (.object libraries)
      (grouped.map fun entry => (entry.1, .object entry.2))) :=
  congrArg Json.object (Table.map_put Json.object file libraries grouped)

theorem exact_regroup {grouped : Table String (Table String Json)} {entry : String × Json}
    (exact : Exact (groupedObject grouped)) (whole : Exact entry.2) :
    Exact (groupedObject (regroup grouped entry)) := by
  -- The libraries of the file so far are an object of the grouped ones, or there are none yet.
  have before (file : String) : Exact (.object ((grouped.get? file).getD [])) := by
    cases bound : grouped.get? file with
    | none => exact .empty
    | some libraries =>
      have isObject := Table.get?_map Json.object file grouped
      rw [bound] at isObject
      exact exact.of_get? isObject
  rw [regroup, groupedObject_put]
  exact exact.put ((before _).put whole _) _

theorem exact_regroupLibraries {entries : List (String × Json)} (exact : ∀ entry ∈ entries, Exact entry.2) :
    Exact (groupedObject (regroupLibraries entries)) := by
  rw [regroupLibraries_eq_foldl]
  suffices grown : ∀ grouped, Exact (groupedObject grouped) →
      Exact (groupedObject (entries.foldl regroup grouped)) from grown [] .empty
  induction entries with
  | nil => exact fun grouped exact => exact
  | cons entry rest ih =>
    obtain ⟨first, others⟩ := List.forall_mem_cons.mp exact
    exact fun grouped exact => ih others _ (exact_regroup exact first)

theorem exact_inputSettings (exact : Exact (.object settings))
    (returned : inputSettings settings = .ok carried) : Exact (.object carried) := by
  have kept := exact.filter fun entry => entry.1 ≠ "compilationTarget"
  rw [inputSettings] at returned
  dsimp only at returned
  -- The target is left out, libraries are regrouped if there are any, and the selection is put in.
  cases listed : Table.get? "libraries" (settings.filter fun entry => entry.1 ≠ "compilationTarget") with
  | none =>
    rw [listed] at returned
    cases returned
    exact kept.put exact_outputSelection _
  | some libraries =>
    rw [listed] at returned
    obtain ⟨entries, opened, returned⟩ := Outcome.bind_eq_ok.mp returned
    cases returned
    have named := (kept.of_get? listed).members opened
    have regrouped := exact_regroupLibraries (Json.exact_object.mp named).2
    exact (kept.put regrouped _).put exact_outputSelection _

theorem exact_findSource {path : String} {content : Json} (contents : ∀ source ∈ sources, Exact source.2)
    (found : findSource (.object sources) path = .ok content) : Exact content := by
  rw [findSource] at found
  split at found
  · cases found
  · cases found
  · have bound := Json.member_eq_ok_iff.mp (Outcome.mapError_eq_ok.mp found)
    rw [Json.at?_object] at bound
    exact contents (path, content) (Table.mem_of_get? bound)

theorem inputSources_eq_ok (contents : ∀ source ∈ sources, Exact source.2)
    (returned : inputSources (.object sources) specs = .ok listed) :
    Table.keys listed = Table.keys specs ∧ ∀ entry ∈ listed, Exact entry.2 := by
  induction specs generalizing listed with
  | nil =>
    cases returned
    exact ⟨rfl, List.forall_mem_nil _⟩
  | cons entry rest ih =>
    obtain ⟨path, spec⟩ := entry
    rw [inputSources] at returned
    obtain ⟨content, found, returned⟩ := Outcome.bind_eq_ok.mp returned
    obtain ⟨_, -, returned⟩ := Outcome.bind_eq_ok.mp returned
    obtain ⟨others, later, returned⟩ := Outcome.bind_eq_ok.mp returned
    cases returned
    obtain ⟨names, exact⟩ := ih later
    refine ⟨congrArg (path :: ·) names, List.forall_mem_cons.mpr ⟨?_, exact⟩⟩
    exact (exact_findSource contents found).single _

theorem exact_inputSources (exact : Exact (.object specs))
    (contents : ∀ source ∈ sources, Exact source.2)
    (returned : inputSources (.object sources) specs = .ok listed) : Exact (.object listed) := by
  obtain ⟨names, each⟩ := inputSources_eq_ok contents returned
  exact .object (names ▸ (Json.exact_object.mp exact).1) each

theorem exact_standardInput (exact : Exact metadata) (contents : ∀ source ∈ sources, Exact source.2)
    (returned : standardInput metadata (.object sources) = .ok input) : Exact input := by
  rw [standardInput] at returned
  obtain ⟨specs, named, returned⟩ := Outcome.bind_eq_ok.mp returned
  obtain ⟨listed, included, returned⟩ := Outcome.bind_eq_ok.mp returned
  obtain ⟨carried, configured, returned⟩ := Outcome.bind_eq_ok.mp returned
  obtain ⟨language, written, returned⟩ := Outcome.bind_eq_ok.mp returned
  cases returned
  obtain ⟨value, isValue, opened⟩ := Outcome.bind_eq_ok.mp (Outcome.mapError_eq_ok.mp named)
  have specs := (exact.memberOr .empty isValue).members opened
  obtain ⟨value, isValue, read⟩ := Outcome.bind_eq_ok.mp (Outcome.mapError_eq_ok.mp configured)
  obtain ⟨settings, opened, read⟩ := Outcome.bind_eq_ok.mp read
  have settings := (exact.memberOr .empty isValue).members opened
  have language := exact.memberOr (.string "Solidity") (Outcome.mapError_eq_ok.mp written)
  have distinct : ["language", "sources", "settings"].Nodup := by decide
  refine .object distinct fun member listed => ?_
  simp only [List.mem_cons, List.not_mem_nil, or_false] at listed
  rcases listed with rfl | rfl | rfl
  · exact language
  · exact exact_inputSources specs contents included
  · exact exact_inputSettings settings read

end

/-! ### The text on the standard input -/

/-- What is looked for in a document before its input is made: a single target, and the version of the
compiler, which may be absent. -/
def Directs (metadata : Json) : Prop :=
  (∃ target, Contract.target (.compilation .targetNotSingle) metadata = .ok target) ∧
    ∃ version, versionOf metadata = .ok version

theorem runs_of_recompile {path : Option String} {logger : Logger} {metadata sources input : Json}
    {world : World} {session : Session} (made : standardInput metadata sources = .ok input) :
    (Directs metadata → (recompile path logger metadata sources world session).2.runs
      = session.runs ++ [⟨choose path world.environment, input.write⟩]) ∧
    (¬ Directs metadata →
      (recompile path logger metadata sources world session).2.runs = session.runs) := by
  rw [recompile, bind_of_ok rfl]
  cases targeted : Contract.target (.compilation .targetNotSingle) metadata with
  | error fault =>
    refine ⟨fun directs => ?_, fun _ => rfl⟩
    obtain ⟨⟨_, found⟩, -⟩ := directs
    cases targeted.symm.trans found
  | ok target =>
    obtain ⟨file, name⟩ := target
    dsimp only
    rw [bind_of_ok rfl, ← versionOf]
    cases versioned : versionOf metadata with
    | error why =>
      refine ⟨fun directs => ?_, fun _ => rfl⟩
      obtain ⟨-, _, found⟩ := directs
      cases versioned.symm.trans found
    | ok version =>
      rw [bind_of_ok rfl, bind_of_ok rfl, made, bind_of_ok rfl, bind_of_ok rfl]
      refine ⟨fun _ => ?_, fun undirected => absurd ⟨⟨_, targeted⟩, _, versioned⟩ undirected⟩
      -- From here on, what the compiler comes to is only looked at.
      cases outputOf (choose path world.environment)
          (world.compiler ⟨choose path world.environment, input.write⟩) with
      | error fault => rfl
      | ok output =>
        rw [bind_of_ok rfl, ofExcept_run]

/-- Recompiling hands the compiler a text that is printable ASCII and reads as the input, if the document
has a target and the values of the document and of the contents can be written. Otherwise the compiler is
not run. -/
theorem recompile_renders_input {metadata input : Json} {sources : List (String × Json)}
    (exact : Exact metadata) (contents : ∀ source ∈ sources, Exact source.2)
    (made : standardInput metadata (.object sources) = .ok input) (path : Option String)
    (logger : Logger) (world : World) (session : Session) :
    ∃ text, Json.Renders text input ∧ (input.depth ≤ Json.maxDepth → Json.read text = .ok input) ∧
      (Directs metadata →
        (recompile path logger metadata (.object sources) world session).2.runs
          = session.runs ++ [⟨choose path world.environment, text⟩]) ∧
      (¬ Directs metadata →
        (recompile path logger metadata (.object sources) world session).2.runs = session.runs) := by
  have renders := Json.renders_write (exact_standardInput exact contents made)
  exact ⟨input.write, renders, renders.read, runs_of_recompile made⟩

namespace Sample

/-- A document with characters that are written in all ways there are. -/
def odd : Json := .object [
  ("language", .string "\"\\/\x7f\x01\n"),
  ("sources", .object [("é.sol", .object [("license", .null)])]),
  ("settings", .object [
    ("compilationTarget", .object [("é.sol", .string "A")]),
    ("libraries", .object [("l.sol:L", .string "0x01"), ("M", .string "😀")]),
    ("optimizer", .object [("enabled", .bool true), ("runs", .int (-200))]),
    ("remappings", .array [.string "a=b", .array []])])]

def oddContents : List (String × Json) := [("é.sol", .string "😀\\u0041\n")]

def oddInput : Json := .object [
  ("language", .string "\"\\/\x7f\x01\n"),
  ("sources", .object [("é.sol", .object [("content", .string "😀\\u0041\n")])]),
  ("settings", .object [
    ("libraries", .object [("l.sol", .object [("L", .string "0x01")]),
      ("", .object [("M", .string "😀")])]),
    ("optimizer", .object [("enabled", .bool true), ("runs", .int (-200))]),
    ("remappings", .array [.string "a=b", .array []]),
    ("outputSelection", outputSelection)])]

theorem standardInput_odd : standardInput odd (.object oddContents) = .ok oddInput :=
  Outcome.eq_ok_of_toOption (by decide +kernel)

theorem exact_odd : Exact odd := by
  have short : (Nat.toDigits 10 200).length ≤ Json.maxIntegerDigits := by decide
  simp [odd, Table.keys, short]

end Sample

/-- The compiler reads a document with quotes, controls and a character beyond the first plane. -/
theorem recompile_renders_input_odd :
    Exact Sample.odd ∧ (∀ source ∈ Sample.oddContents, Exact source.2) ∧
    standardInput Sample.odd (.object Sample.oddContents) = .ok Sample.oddInput ∧
    ∃ text, Json.Renders text Sample.oddInput ∧ Json.read text = .ok Sample.oddInput ∧
      (recompile none Sample.logger Sample.odd (.object Sample.oddContents)
        (Sample.world .notFound) (Session.fresh [])).2.runs = [⟨"solc", text⟩] := by
  have contents : ∀ source ∈ Sample.oddContents, Exact source.2 :=
    List.forall_mem_singleton.mpr (.string _)
  refine ⟨Sample.exact_odd, contents, Sample.standardInput_odd, ?_⟩
  obtain ⟨text, renders, read, runs, -⟩ := recompile_renders_input Sample.exact_odd contents
    Sample.standardInput_odd none Sample.logger (Sample.world .notFound) (Session.fresh [])
  exact ⟨text, renders, read (by decide), runs ⟨⟨_, rfl⟩, _, rfl⟩⟩

end Compiler

end SourceAttest
