import SourceAttest.Proofs.Contract.Uploads
import SourceAttest.Proofs.Json.Shape

/-!
# The input of the compiler

The compiler is given the sources that a document names, with the contents that were supplied, and only
if each of these has the hash that the document demands. The main result `standardInput_of_described`
says when there is an input, which source is at fault if there is none, and what an input consists of.
-/
namespace SourceAttest.Compiler

/-! ### Sources -/

/-- The hash that a document demands of a source, in lower case. None is demanded if none is declared,
or one that counts as absent. -/
inductive Demands : Json → Option String → Prop
  | nothing {members : List (String × Json)}
      (absent : ((Table.get? "keccak256" members).getD .null).isTruthy = false) :
      Demands (.object members) none
  | hash {members : List (String × Json)} {declared : String}
      (found : (Table.get? "keccak256" members).bind Json.text? = some declared)
      (named : declared ≠ "") :
      Demands (.object members) (some (Text.lower declared))

/-- A content is at hand for a source, and it has the hash that is demanded of it. -/
def Supplied (contents : Table String String) (path : String) (spec : Json) : Prop :=
  ∃ content, contents.get? path = some content ∧
    ∀ hash, Demands spec (some hash) → sourceHash content = hash

/-- The sources of an input: those that are named, in their order, with the contents at hand. -/
structure Includes (contents : Table String String) (specs sources : List (String × Json)) : Prop where
  paths : Table.keys sources = Table.keys specs
  contents : ∀ path value, (path, value) ∈ sources →
    ∃ content, contents.get? path = some content ∧ value = .object [("content", .string content)]

/-- The fault of a source that is not supplied: it is missing, or it has another hash. -/
def faultOf (contents : Table String String) (path : String) : CompilationFault :=
  if contents.has path then .sourceChanged path else .sourceMissing path

section

variable {contents : Table String String} {path content : String} {spec : Json}
  {demanded other : Option String}

/-- A hash that is demanded is declared, and does not count as absent. -/
theorem declared_of_demands {members : List (String × Json)} {declared : String}
    (found : (Table.get? "keccak256" members).bind Json.text? = some declared) (named : declared ≠ "") :
    ∃ value, Table.get? "keccak256" members = some value ∧ value.text? = some declared ∧
      value.isTruthy = true := by
  obtain ⟨value, isValue, isText⟩ := Option.bind_eq_some_iff.mp found
  exact ⟨value, isValue, isText, (Json.isTruthy_iff_of_text? isText).mpr named⟩

theorem Demands.unique (demands : Demands spec demanded) (demands' : Demands spec other) :
    demanded = other := by
  cases demands with
  | nothing absent =>
    cases demands' with
    | nothing _ => rfl
    | hash found named =>
      obtain ⟨value, isValue, -, present⟩ := declared_of_demands found named
      simp [isValue, present] at absent
  | hash found named =>
    cases demands' with
    | nothing absent =>
      obtain ⟨value, isValue, -, present⟩ := declared_of_demands found named
      simp [isValue, present] at absent
    | hash found' _ =>
      cases found.symm.trans found'
      rfl

theorem checkSource_of_right (demands : Demands spec demanded)
    (right : ∀ hash, Demands spec (some hash) → sourceHash content = hash) (path : String) :
    checkSource path spec (.string content) = .ok () := by
  cases demands with
  | nothing absent =>
    rw [checkSource, Json.memberOr_object]
    dsimp only
    rw [absent]
    rfl
  | @hash members declared found named =>
    obtain ⟨value, isValue, isText, -⟩ := declared_of_demands found named
    have declares : Contract.Declares (.object members) (Text.lower declared) :=
      ⟨members, declared, rfl, by rw [isValue]; exact isText, rfl⟩
    exact Contract.checkSource_of_declares declares (.inr (right _ (.hash found named))) path

theorem checkSource_of_wrong (demands : Demands spec demanded)
    (wrong : ¬ ∀ hash, Demands spec (some hash) → sourceHash content = hash) (path : String) :
    checkSource path spec (.string content) = .error (.compilation (.sourceChanged path)) := by
  cases demands with
  | nothing absent =>
    refine absurd (fun hash demands => ?_) wrong
    cases (Demands.nothing absent).unique demands
  | @hash _ declared found named =>
    have different : sourceHash content ≠ Text.lower declared := by
      intro same
      refine wrong fun hash demands => ?_
      cases (Demands.hash found named).unique demands
      exact same
    obtain ⟨value, isValue, isText, present⟩ := declared_of_demands found named
    rw [checkSource, Json.memberOr_object, isValue]
    simp [present, Json.text_eq_ok_iff.mpr isText, sourceText, different]

theorem findSource_of_has (found : contents.get? path = some content) :
    findSource (.ofTexts contents) path = .ok (.string content) := by
  have bound := (Table.get?_map Json.string path contents).trans (congrArg (·.map Json.string) found)
  exact Contract.findSource_of_bound bound

theorem findSource_of_none (absent : contents.get? path = none) :
    findSource (.ofTexts contents) path = .error (.compilation (.sourceMissing path)) := by
  have bound := (Table.get?_map Json.string path contents).trans (congrArg (·.map Json.string) absent)
  rw [findSource, Json.ofTexts, Json.mentions, Table.has, bound]
  rfl

theorem inputSources_of_supplied {specs : List (String × Json)}
    (demands : ∀ entry ∈ specs, ∃ demanded, Demands entry.2 demanded)
    (supplied : ∀ entry ∈ specs, Supplied contents entry.1 entry.2) :
    ∃ sources, inputSources (.ofTexts contents) specs = .ok sources ∧
      Includes contents specs sources := by
  -- The contents are looked up under the named paths, so what else is at hand is never reached.
  induction specs with
  | nil => exact ⟨[], rfl, rfl, fun path value member => absurd member List.not_mem_nil⟩
  | cons entry rest ih =>
    obtain ⟨path, spec⟩ := entry
    obtain ⟨⟨demanded, first⟩, demands⟩ := List.forall_mem_cons.mp demands
    obtain ⟨⟨content, found, right⟩, supplied⟩ := List.forall_mem_cons.mp supplied
    obtain ⟨sources, returned, includes⟩ := ih demands supplied
    refine ⟨(path, .object [("content", .string content)]) :: sources, ?_, ?_, ?_⟩
    · rw [inputSources, findSource_of_has found]
      change (checkSource path spec (.string content) >>= _) = _
      rw [checkSource_of_right first right, returned]
      rfl
    · exact congrArg (path :: ·) includes.paths
    · intro other value member
      rcases List.mem_cons.mp member with same | later
      · cases same
        exact ⟨content, found, rfl⟩
      · exact includes.contents other value later

theorem inputSources_of_first {before after : List (String × Json)}
    (demands : ∀ entry ∈ before ++ (path, spec) :: after, ∃ demanded, Demands entry.2 demanded)
    (supplied : ∀ entry ∈ before, Supplied contents entry.1 entry.2)
    (unsupplied : ¬ Supplied contents path spec) :
    inputSources (.ofTexts contents) (before ++ (path, spec) :: after)
      = .error (.compilation (faultOf contents path)) := by
  -- The sources before the first one at fault pass, so each is checked in turn until that one.
  induction before with
  | nil =>
    obtain ⟨⟨demanded, first⟩, -⟩ := List.forall_mem_cons.mp demands
    rw [List.nil_append, inputSources, faultOf, Table.has]
    cases found : contents.get? path with
    | none =>
      rw [findSource_of_none found]
      rfl
    | some content =>
      rw [findSource_of_has found]
      change (checkSource path spec (.string content) >>= _) = _
      rw [checkSource_of_wrong first fun right => unsupplied ⟨content, found, right⟩]
      rfl
  | cons entry rest ih =>
    obtain ⟨other, spec'⟩ := entry
    obtain ⟨⟨demanded, first⟩, demands⟩ := List.forall_mem_cons.mp demands
    obtain ⟨⟨content, found, right⟩, supplied⟩ := List.forall_mem_cons.mp supplied
    rw [List.cons_append, inputSources, findSource_of_has found]
    change (checkSource other spec' (.string content) >>= _) = _
    rw [checkSource_of_right first right]
    change (inputSources (.ofTexts contents) (rest ++ (path, spec) :: after) >>= _) = _
    rw [ih demands supplied]
    rfl

end

/-! ### Settings -/

/-- The settings of a document. -/
def Configures (metadata : Json) (settings : Table String Json) : Prop :=
  (do (← metadata.memberOr "settings" (.object [])).members "items") = Except.ok settings

/-- The settings of an input: those of the document in their order, without the target, with regrouped
libraries and with a fixed selection of output. The selection is last if the document has none. -/
structure Carries (settings carried : Table String Json) : Prop where
  names : carried.keys = settings.keys.filter (· ≠ "compilationTarget") ++
    if "outputSelection" ∈ settings.keys then [] else ["outputSelection"]
  selection : carried.get? "outputSelection" = some outputSelection
  libraries : ∀ value, carried.get? "libraries" = some value ↔
    ∃ entries, settings.get? "libraries" = some (.object entries) ∧
      value = groupedObject (regroupLibraries entries)
  others : ∀ name, name ∉ ["compilationTarget", "libraries", "outputSelection"] →
    carried.get? name = settings.get? name

/-- Regrouped settings with the selection put in are those of an input. -/
theorem Carries.of_regrouped {settings regrouped : Table String Json}
    (names : regrouped.keys = settings.keys.filter (· ≠ "compilationTarget"))
    (libraries : ∀ value, regrouped.get? "libraries" = some value ↔
      ∃ entries, settings.get? "libraries" = some (.object entries) ∧
        value = groupedObject (regroupLibraries entries))
    (others : ∀ name, name ∉ ["compilationTarget", "libraries"] →
      regrouped.get? name = settings.get? name) :
    Carries settings (regrouped.put "outputSelection" outputSelection) where
  names := by
    -- A selection of the document's own is replaced where it stands.
    have listed : "outputSelection" ∈ settings.keys.filter (· ≠ "compilationTarget") ↔
        "outputSelection" ∈ settings.keys := by simp
    rw [Table.keys_put, names]
    simp only [listed]
  selection := Table.get?_put_self ..
  libraries value := by
    rw [Table.get?_put_of_ne (by decide)]
    exact libraries value
  others name other := by
    simp only [List.mem_cons, List.not_mem_nil, or_false, not_or] at other
    rw [Table.get?_put_of_ne other.2.2]
    exact others name (by simp [other])

theorem carries_of_libraries {settings : Table String Json}
    (typed : ∀ value, settings.get? "libraries" = some value → ∃ entries, value = .object entries) :
    ∃ carried, inputSettings settings = .ok carried ∧ Carries settings carried := by
  have kept {name : String} (other : name ≠ "compilationTarget") :
      Table.get? name (settings.filter fun entry => entry.1 ≠ "compilationTarget")
        = settings.get? name := Table.get?_filter_of_ne other settings
  have names := Table.keys_filter "compilationTarget" settings
  rw [inputSettings]
  dsimp only
  cases listed : settings.get? "libraries" with
  | none =>
    rw [(kept (by decide)).trans listed]
    refine ⟨_, rfl, .of_regrouped names (fun value => ?_) fun name other => ?_⟩
    · rw [kept (by decide), listed]
      simp
    · exact kept fun same => other (same ▸ List.mem_cons_self)
  | some libraries =>
    obtain ⟨entries, rfl⟩ := typed libraries listed
    rw [(kept (by decide)).trans listed]
    refine ⟨_, rfl, .of_regrouped ?_ (fun value => ?_) fun name other => ?_⟩
    · -- The libraries are bound again in their old place.
      apply Eq.trans (Table.keys_put_of_mem ?_ _) names
      apply (Table.has_iff_mem_keys ..).mp
      rw [Table.has, kept (by decide), listed]
      rfl
    · rw [Table.get?_put_self, listed]
      constructor
      · rintro ⟨⟩
        exact ⟨entries, rfl, rfl⟩
      · rintro ⟨_, ⟨⟩, rfl⟩
        rfl
    · simp only [List.mem_cons, List.not_mem_nil, or_false, not_or] at other
      rw [Table.get?_put_of_ne other.2, kept other.1]

/-! ### Inputs -/

/-- A document whose entries an input can be made of: its sources say what hash they demand, and its
libraries are an object. -/
structure Described (metadata : Json) (specs settings : List (String × Json)) : Prop where
  names : Contract.Names metadata specs
  demands : ∀ entry ∈ specs, ∃ demanded, Demands entry.2 demanded
  configures : Configures metadata settings
  libraries : ∀ value, Table.get? "libraries" settings = some value →
    ∃ entries, value = .object entries

section

variable {metadata : Json} {specs settings : List (String × Json)} {contents : Table String String}

theorem Described.metadata_eq (described : Described metadata specs settings) :
    ∃ members, metadata = .object members := by
  obtain ⟨value, isValue, -⟩ := Outcome.bind_eq_ok.mp described.names
  obtain ⟨members, opened, -⟩ := Outcome.map_eq_ok.mp isValue
  exact ⟨members, Json.eq_object_of_members opened⟩

/-- An input is made of the sources first. -/
theorem standardInput_eq (described : Described metadata specs settings) (sources : Json) :
    standardInput metadata sources = (do
      let listed ← inputSources sources specs
      let carried ← (inputSettings settings).mapError .shape
      return .object [("language", (metadata.at? ["language"]).getD (.string "Solidity")),
        ("sources", .object listed), ("settings", .object carried)]) := by
  obtain ⟨members, rfl⟩ := described.metadata_eq
  have named : (do (← (Json.object members).memberOr "sources" (.object [])).members "items")
      = Except.ok specs := described.names
  obtain ⟨value, isValue, isObject⟩ := Outcome.bind_eq_ok.mp described.configures
  rw [standardInput, named, isValue]
  change (inputSources sources specs >>= _) = _
  cases inputSources sources specs with
  | error fault => rfl
  | ok listed =>
    change (Except.mapError Fault.shape (value.members "items" >>= inputSettings) >>= _) = _
    rw [isObject]
    change (Except.mapError Fault.shape (inputSettings settings) >>= _)
      = (Except.mapError Fault.shape (inputSettings settings) >>= _)
    cases inputSettings settings with
    | error why => rfl
    | ok carried =>
      rw [Json.memberOr_object, ← Json.at?_object]
      rfl

theorem standardInput_of_supplied (described : Described metadata specs settings)
    (supplied : ∀ entry ∈ specs, Supplied contents entry.1 entry.2) :
    ∃ sources carried, standardInput metadata (.ofTexts contents)
        = .ok (.object [("language", (metadata.at? ["language"]).getD (.string "Solidity")),
          ("sources", .object sources), ("settings", .object carried)]) ∧
      Includes contents specs sources ∧ Carries settings carried := by
  obtain ⟨sources, listed, includes⟩ := inputSources_of_supplied described.demands supplied
  obtain ⟨carried, configured, carries⟩ := carries_of_libraries described.libraries
  refine ⟨sources, carried, ?_, includes, carries⟩
  rw [standardInput_eq described, listed, configured]
  rfl

theorem standardInput_of_first {before after : List (String × Json)} {path : String} {spec : Json}
    (described : Described metadata (before ++ (path, spec) :: after) settings)
    (supplied : ∀ entry ∈ before, Supplied contents entry.1 entry.2)
    (unsupplied : ¬ Supplied contents path spec) :
    standardInput metadata (.ofTexts contents) = .error (.compilation (faultOf contents path)) := by
  rw [standardInput_eq described, inputSources_of_first described.demands supplied unsupplied]
  rfl

theorem supplied_of_standardInput {specs : List (String × Json)} {input : Json}
    (described : Described metadata specs settings)
    (returned : standardInput metadata (.ofTexts contents) = .ok input) :
    ∀ entry ∈ specs, Supplied contents entry.1 entry.2 := by
  apply (Outcome.all_or_first (fun entry => Supplied contents entry.1 entry.2) specs).resolve_right
  -- The first source that is not supplied would have failed the input.
  rintro ⟨before, ⟨path, spec⟩, after, rfl, supplied, unsupplied⟩
  cases (standardInput_of_first described supplied unsupplied).symm.trans returned

end

/-- There is an input if and only if every source is supplied. If not, it fails by the first source that
is not. An input has the sources that the document names, in their order and with the contents at hand,
and the settings of the document as far as they are carried over. -/
theorem standardInput_of_described {metadata : Json} {specs settings : List (String × Json)}
    (described : Described metadata specs settings) (contents : Table String String) :
    ((∃ input, standardInput metadata (.ofTexts contents) = .ok input) ↔
      ∀ entry ∈ specs, Supplied contents entry.1 entry.2) ∧
    (∀ before path spec after, specs = before ++ (path, spec) :: after →
      (∀ entry ∈ before, Supplied contents entry.1 entry.2) → ¬ Supplied contents path spec →
        standardInput metadata (.ofTexts contents)
          = .error (.compilation (faultOf contents path))) ∧
    ∀ input, standardInput metadata (.ofTexts contents) = .ok input →
      ∃ sources carried, Includes contents specs sources ∧ Carries settings carried ∧
        input = .object [("language", (metadata.at? ["language"]).getD (.string "Solidity")),
          ("sources", .object sources), ("settings", .object carried)] := by
  refine ⟨⟨?only, ?all⟩, ?first, ?parts⟩
  case only =>
    rintro ⟨input, returned⟩
    exact supplied_of_standardInput described returned
  case all =>
    intro supplied
    obtain ⟨sources, carried, returned, -⟩ := standardInput_of_supplied described supplied
    exact ⟨_, returned⟩
  case first =>
    rintro before path spec after rfl supplied unsupplied
    exact standardInput_of_first described supplied unsupplied
  case parts =>
    intro input returned
    obtain ⟨sources, carried, returned', includes, carries⟩ :=
      standardInput_of_supplied described (supplied_of_standardInput described returned)
    cases returned'.symm.trans returned
    exact ⟨sources, carried, includes, carries, rfl⟩

namespace Sample

/-- The document declares a hash in capitals for its first source and none for its second one. -/
def specs : List (String × Json) :=
  [("a.sol", Contract.Hashed.spec), ("b.sol", .object [])]

def settings : List (String × Json) :=
  [("compilationTarget", .object [("a.sol", .string "A")]), ("outputSelection", .object []),
    ("libraries", .object [("l.sol:L", .string "0x01")]), ("optimizer", .bool true)]

def metadata : Json := .object [("settings", .object settings), ("sources", .object specs)]

def contents : Table String String :=
  [("unused.sol", "contract U"), ("b.sol", "contract C"), ("a.sol", "contract B")]

theorem demands_spec : Demands Contract.Hashed.spec (some (sourceHash "contract B")) := by
  rw [Contract.Hashed.sourceHash_content, show
    "0x01c760845480561efd0d5b1b13943409c8d9f2fa5cceffdb8d02a15ea0a352df" = Text.lower
      "0X01C760845480561EFD0D5B1B13943409C8D9F2FA5CCEFFDB8D02A15EA0A352DF" from by decide +kernel]
  exact .hash rfl (by decide)

theorem described : Described metadata specs settings where
  names := rfl
  demands := by
    rintro entry member
    rcases List.mem_cons.mp member with rfl | last
    · exact ⟨_, demands_spec⟩
    · cases List.mem_singleton.mp last
      exact ⟨_, .nothing rfl⟩
  configures := rfl
  libraries := by
    rintro _ ⟨⟩
    exact ⟨_, rfl⟩

theorem supplied : ∀ entry ∈ specs, Supplied contents entry.1 entry.2 := by
  rintro entry member
  rcases List.mem_cons.mp member with rfl | last
  · refine ⟨"contract B", rfl, fun hash demands => ?_⟩
    exact Option.some.inj (demands_spec.unique demands)
  · cases List.mem_singleton.mp last
    refine ⟨"contract C", rfl, fun hash demands => ?_⟩
    cases (Demands.nothing rfl).unique demands

end Sample

/-- The document has an input from contents that it names and others, and none without its first source. -/
theorem standardInput_of_described_of_two :
    Described Sample.metadata Sample.specs Sample.settings ∧
    (∃ input, standardInput Sample.metadata (.ofTexts Sample.contents) = .ok input) ∧
    standardInput Sample.metadata (.ofTexts [("b.sol", "contract C")])
      = .error (.compilation (.sourceMissing "a.sol")) := by
  refine ⟨Sample.described, ?_, ?_⟩
  · exact (standardInput_of_described Sample.described Sample.contents).1.mpr Sample.supplied
  · refine (standardInput_of_described Sample.described [("b.sol", "contract C")]).2.1 [] _ _ _ rfl
      (List.forall_mem_nil _) ?_
    rintro ⟨_, ⟨⟩, -⟩

end SourceAttest.Compiler
