import SourceAttest.Compiler.Input
import SourceAttest.Proofs.Contract.Fetch
import SourceAttest.Proofs.Json.Shape
import SourceAttest.Proofs.Json.WellFormed

/-!
# Matched sources and the compiler

A source is matched by one rule, fetched by a second and checked by a third before it goes to the
compiler. The main result is `input_of_matched`: a source that was matched or fetched passes the check,
so that only contents which the document itself holds can be refused there.
-/
namespace SourceAttest

open SourceAttest.Action

namespace Contract

/-! ### The rules -/

/-- The sources that a document names, with what it says about them. -/
def Names (metadata : Json) (specs : List (String × Json)) : Prop :=
  (do (← metadata.memberOr "sources" (.object [])).members "items") = Except.ok specs

/-- The document holds the content of a source. -/
def Inline (spec content : Json) : Prop :=
  ∃ members, spec = .object members ∧ Table.get? "content" members = some content

/-- The document declares a hash for a source, here in lower case, or none, which counts as empty. -/
def Declares (spec : Json) (hash : String) : Prop :=
  ∃ members declared, spec = .object members ∧
    ((Table.get? "keccak256" members).getD (.string "")).text? = some declared ∧
    hash = Text.lower declared

/-- A content for a source comes from the document or passes the check. -/
def Suits (path : String) (spec content : Json) : Prop :=
  Inline spec content ∨ Compiler.checkSource path spec content = .ok ()

theorem checkSource_of_declares {spec : Json} {hash content : String} (declares : Declares spec hash)
    (right : hash = "" ∨ sourceHash content = hash) (path : String) :
    Compiler.checkSource path spec (.string content) = .ok () := by
  obtain ⟨members, declared, rfl, isDeclared, rfl⟩ := declares
  have expected : Json.memberOr (.object members) "keccak256" .null
      = .ok ((Table.get? "keccak256" members).getD .null) := rfl
  unfold Compiler.checkSource
  rw [expected]
  cases found : Table.get? "keccak256" members with
  | none => rfl
  | some value =>
    rw [found, Option.getD_some] at isDeclared
    dsimp only [Option.getD_some]
    split
    · rfl
    next present =>
      -- A hash that is not empty is not empty in lower case either.
      have named := (Json.isTruthy_iff_of_text? isDeclared).mp (by simpa using present)
      have same := right.resolve_left fun empty => named (Text.eq_empty_of_lower_eq_empty empty)
      rw [Json.text_eq_ok_iff.mpr isDeclared]
      dsimp only [sourceText]
      rw [if_pos same]

/-- What is found under a hash is one of the files, and it has this hash. -/
theorem mem_values_of_byHash {files : Table String String} {hash content : String}
    (found : (byHash files).get? hash = some content) :
    content ∈ files.values ∧ sourceHash content = hash := by
  apply Table.get?_of_ofEntries (fun hash content => content ∈ files.values ∧ sourceHash content = hash)
    ?_ found
  intro entry member
  obtain ⟨content, uploaded, rfl⟩ := List.mem_map.mp member
  exact ⟨uploaded, rfl⟩

/-! ### Matching -/

/-- The URLs that a document lists for a source. -/
def Lists (spec : Json) (urls : List Json) : Prop :=
  (do (← spec.memberOr "urls" (.array [])).items) = Except.ok urls

/-- Where the uploaded files leave a source: the first of four rules that applies. -/
inductive Settles (files : Table String String) (path : String) (spec : Json) : Placement → Prop
  | inline {hash : String} {content : Json} (declares : Declares spec hash)
      (held : Inline spec content) : Settles files path spec (.found content)
  | hashed {hash content : String} (declares : Declares spec hash)
      (bare : ∀ content, ¬ Inline spec content) (found : (byHash files).get? hash = some content) :
      Settles files path spec (.found (.string content))
  | named {content : String} (declares : Declares spec "") (bare : ∀ content, ¬ Inline spec content)
      (found : files.get? path = some content) :
      Settles files path spec (.found (.string content))
  | missing {hash : String} {urls : List Json} (declares : Declares spec hash)
      (bare : ∀ content, ¬ Inline spec content)
      (unhashed : (byHash files).get? hash = none) (unnamed : hash = "" → files.get? path = none)
      (listed : Lists spec urls) : Settles files path spec (.missing ⟨hash, urls⟩)

theorem get?_content_eq_none {members : List (String × Json)} :
    Table.get? "content" members = none ↔ ∀ content, ¬ Inline (.object members) content := by
  constructor
  · rintro absent content ⟨_, ⟨⟩, held⟩
    cases absent.symm.trans held
  · intro bare
    cases held : Table.get? "content" members with
    | none => rfl
    | some content => exact absurd ⟨members, rfl, held⟩ (bare content)

/-- No file has the empty hash. -/
theorem get?_byHash_empty (files : Table String String) : (byHash files).get? "" = none := by
  cases found : (byHash files).get? "" with
  | none => rfl
  | some content =>
    have empty := (mem_values_of_byHash found).2
    simp [sourceHash] at empty

section

variable {files : Table String String} {path : String} {spec : Json}

theorem settles_of_placeSource {placement : Placement}
    (returned : placeSource files (byHash files) path spec = .ok placement) :
    Settles files path spec placement := by
  obtain ⟨value, isValue, hashed⟩ := Outcome.bind_eq_ok.mp returned
  obtain ⟨declared, isText, opened⟩ := Outcome.bind_eq_ok.mp hashed
  obtain ⟨members, isObject, placed⟩ := Outcome.bind_eq_ok.mp opened
  cases Json.eq_object_of_members isObject
  cases isValue
  have declares : Declares (.object members) (Text.lower declared) :=
    ⟨members, declared, rfl, Json.text_eq_ok_iff.mp isText, rfl⟩
  split at placed
  next content held =>
    cases placed
    exact .inline declares ⟨members, rfl, held⟩
  next absent =>
    have bare := get?_content_eq_none.mp absent
    split at placed
    next content found =>
      cases placed
      exact .hashed declares bare found
    next unhashed =>
      split at placed
      next content found =>
        cases placed
        split at found
        next empty =>
          -- The path decides only if no hash is declared.
          rw [empty] at declares
          exact .named declares bare found
        · cases found
      next unnamed =>
        obtain ⟨listed, isListed, placed⟩ := Outcome.bind_eq_ok.mp placed
        obtain ⟨urls, areItems, placed⟩ := Outcome.bind_eq_ok.mp placed
        cases placed
        refine .missing declares bare unhashed (fun empty => ?_)
          (Outcome.bind_eq_ok.mpr ⟨listed, isListed, areItems⟩)
        rwa [if_pos empty] at unnamed

theorem placeSource_of_settles {placement : Placement} (settles : Settles files path spec placement) :
    placeSource files (byHash files) path spec = .ok placement := by
  cases settles with
  | inline declares held =>
    obtain ⟨members, declared, rfl, isDeclared, rfl⟩ := declares
    obtain ⟨_, ⟨⟩, held⟩ := held
    refine Outcome.bind_eq_ok.mpr ⟨_, rfl, Outcome.bind_eq_ok.mpr
      ⟨declared, Json.text_eq_ok_iff.mpr isDeclared, Outcome.bind_eq_ok.mpr ⟨members, rfl, ?_⟩⟩⟩
    rw [held]
    rfl
  | hashed declares bare found =>
    obtain ⟨members, declared, rfl, isDeclared, rfl⟩ := declares
    refine Outcome.bind_eq_ok.mpr ⟨_, rfl, Outcome.bind_eq_ok.mpr
      ⟨declared, Json.text_eq_ok_iff.mpr isDeclared, Outcome.bind_eq_ok.mpr ⟨members, rfl, ?_⟩⟩⟩
    rw [get?_content_eq_none.mpr bare, found]
    rfl
  | named declares bare found =>
    obtain ⟨members, declared, rfl, isDeclared, empty⟩ := declares
    refine Outcome.bind_eq_ok.mpr ⟨_, rfl, Outcome.bind_eq_ok.mpr
      ⟨declared, Json.text_eq_ok_iff.mpr isDeclared, Outcome.bind_eq_ok.mpr ⟨members, rfl, ?_⟩⟩⟩
    rw [get?_content_eq_none.mpr bare, ← empty, get?_byHash_empty, if_pos rfl, found]
    rfl
  | missing declares bare unhashed unnamed listed =>
    obtain ⟨members, declared, rfl, isDeclared, rfl⟩ := declares
    obtain ⟨value, isValue, areItems⟩ := Outcome.bind_eq_ok.mp listed
    have absent : (if Text.lower declared = "" then files.get? path else none) = none := by
      split
      next empty => exact unnamed empty
      · rfl
    refine Outcome.bind_eq_ok.mpr ⟨_, rfl, Outcome.bind_eq_ok.mpr
      ⟨declared, Json.text_eq_ok_iff.mpr isDeclared, Outcome.bind_eq_ok.mpr ⟨members, rfl, ?_⟩⟩⟩
    rw [get?_content_eq_none.mpr bare, unhashed, absent]
    exact Outcome.bind_eq_ok.mpr ⟨value, isValue, Outcome.bind_eq_ok.mpr ⟨_, areItems, rfl⟩⟩

theorem Settles.suits {content : Json} (settles : Settles files path spec (.found content)) :
    Suits path spec content := by
  cases settles with
  | inline _ held => exact .inl held
  | hashed declares _ found =>
    exact .inr (checkSource_of_declares declares (.inr (mem_values_of_byHash found).2) _)
  | named declares _ _ => exact .inr (checkSource_of_declares declares (.inl rfl) _)

theorem Settles.declares {source : MissingSource} (settles : Settles files path spec (.missing source)) :
    Declares spec source.hash := by
  cases settles with
  | missing declares _ _ _ _ => exact declares

end

/-- Where the uploaded files leave the sources of a document, one after the other. -/
inductive Sorts (files : Table String String) :
    List (String × Json) → Table String Json → Table String MissingSource → Prop
  | nil : Sorts files [] [] []
  | found {path : String} {spec content : Json} {specs : List (String × Json)}
      {sources : Table String Json} {missing : Table String MissingSource}
      (settles : Settles files path spec (.found content)) (rest : Sorts files specs sources missing) :
      Sorts files ((path, spec) :: specs) ((path, content) :: sources) missing
  | missing {path : String} {spec : Json} {source : MissingSource} {specs : List (String × Json)}
      {sources : Table String Json} {missing : Table String MissingSource}
      (settles : Settles files path spec (.missing source)) (rest : Sorts files specs sources missing) :
      Sorts files ((path, spec) :: specs) sources ((path, source) :: missing)

/-- What is at hand and what is missing after matching, for the sources of a document. -/
structure Places (specs : List (String × Json)) (sources : Table String Json)
    (missing : Table String MissingSource) : Prop where
  suits : ∀ entry ∈ sources, ∃ spec, (entry.1, spec) ∈ specs ∧ Suits entry.1 spec entry.2
  declares : ∀ entry ∈ missing, ∃ spec, (entry.1, spec) ∈ specs ∧ Declares spec entry.2.hash
  covers : ∀ path ∈ Table.keys specs, path ∈ sources.keys ∨ path ∈ missing.keys

section

variable {files : Table String String} {specs : List (String × Json)} {sources : Table String Json}
  {missing : Table String MissingSource}

theorem placeSources_eq_ok_iff :
    placeSources files (byHash files) specs = .ok (sources, missing) ↔
      Sorts files specs sources missing := by
  constructor
  · intro returned
    induction specs generalizing sources missing with
    | nil =>
      cases returned
      exact .nil
    | cons entry rest ih =>
      obtain ⟨placement, placed, returned⟩ := Outcome.bind_eq_ok.mp returned
      obtain ⟨⟨others, lacking⟩, others_placed, returned⟩ := Outcome.bind_eq_ok.mp returned
      cases placement with
      | found content =>
        cases returned
        exact .found (settles_of_placeSource placed) (ih others_placed)
      | missing source =>
        cases returned
        exact .missing (settles_of_placeSource placed) (ih others_placed)
  · intro sorts
    induction sorts with
    | nil => rfl
    | found settles _ ih =>
      exact Outcome.bind_eq_ok.mpr ⟨_, placeSource_of_settles settles,
        Outcome.bind_eq_ok.mpr ⟨_, ih, rfl⟩⟩
    | missing settles _ ih =>
      exact Outcome.bind_eq_ok.mpr ⟨_, placeSource_of_settles settles,
        Outcome.bind_eq_ok.mpr ⟨_, ih, rfl⟩⟩

namespace Sorts

/-- What is at hand was found for a source of the document. -/
theorem settles_of_mem_sources (sorts : Sorts files specs sources missing) {path : String}
    {content : Json} (member : (path, content) ∈ sources) :
    ∃ spec, (path, spec) ∈ specs ∧ Settles files path spec (.found content) := by
  induction sorts with
  | nil => cases member
  | found settles _ ih =>
    rcases List.mem_cons.mp member with same | later
    · cases same
      exact ⟨_, List.mem_cons_self, settles⟩
    · exact (ih later).imp fun _ named => named.imp_left (List.mem_cons_of_mem _)
  | missing _ _ ih => exact (ih member).imp fun _ named => named.imp_left (List.mem_cons_of_mem _)

theorem settles_of_mem_missing (sorts : Sorts files specs sources missing) {path : String}
    {source : MissingSource} (member : (path, source) ∈ missing) :
    ∃ spec, (path, spec) ∈ specs ∧ Settles files path spec (.missing source) := by
  induction sorts with
  | nil => cases member
  | found _ _ ih => exact (ih member).imp fun _ named => named.imp_left (List.mem_cons_of_mem _)
  | missing settles _ ih =>
    rcases List.mem_cons.mp member with same | later
    · cases same
      exact ⟨_, List.mem_cons_self, settles⟩
    · exact (ih later).imp fun _ named => named.imp_left (List.mem_cons_of_mem _)

theorem covers (sorts : Sorts files specs sources missing) {path : String}
    (named : path ∈ Table.keys specs) : path ∈ sources.keys ∨ path ∈ missing.keys := by
  induction sorts with
  | nil => cases named
  | found _ _ ih =>
    rcases List.mem_cons.mp named with rfl | later
    · exact .inl List.mem_cons_self
    · exact (ih later).imp_left (List.mem_cons_of_mem _)
  | missing _ _ ih =>
    rcases List.mem_cons.mp named with rfl | later
    · exact .inr List.mem_cons_self
    · exact (ih later).imp_right (List.mem_cons_of_mem _)

theorem places (sorts : Sorts files specs sources missing) : Places specs sources missing where
  suits _ member :=
    (sorts.settles_of_mem_sources member).imp fun _ found => found.imp_right Settles.suits
  declares _ member :=
    (sorts.settles_of_mem_missing member).imp fun _ lacking => lacking.imp_right Settles.declares
  covers _ := sorts.covers

end Sorts

end

/-! ### Fetching -/

/-- A contract serves the sources of a document: what is at hand suits, and the rest is missing. -/
structure Serves (specs : List (String × Json)) (contract : Contract) : Prop where
  suits : ∀ path spec content, (path, spec) ∈ specs → contract.sources.get? path = some content →
    Suits path spec content
  covers : ∀ path ∈ Table.keys specs, path ∈ contract.sources.keys ∨ path ∈ contract.missing.keys

section

variable {gateways : Gateways} {logger : Logger} {contract completed : Contract} {world : World}
  {session final : Session} {specs : List (String × Json)}

theorem Serves.supply (serves : Serves specs contract) {path content hash : String}
    (declares : ∀ spec, (path, spec) ∈ specs → Declares spec hash)
    (right : sourceHash content = hash) : Serves specs (contract.supply path content) := by
  constructor
  · intro other spec held named found
    by_cases same : other = path
    · subst same
      rw [Contract.supply, Table.get?_put_self] at found
      cases found
      exact .inr (checkSource_of_declares (declares spec named) (.inr right) _)
    · rw [Contract.supply, Table.get?_put_of_ne same] at found
      exact serves.suits other spec held named found
  · intro other named
    by_cases same : other = path
    · exact .inl ((Table.mem_keys_put ..).mpr (.inl same))
    · rcases serves.covers other named with atHand | lacking
      · exact .inl ((Table.mem_keys_put ..).mpr (.inr atHand))
      · exact .inr (Table.mem_keys_erase_of_ne same lacking)

theorem serves_of_fetchEach {missing : List (String × MissingSource)}
    (declares : ∀ entry ∈ missing, ∀ spec, (entry.1, spec) ∈ specs → Declares spec entry.2.hash)
    (serves : Serves specs contract) {fault : Option Fault}
    (returned : fetchEach gateways logger missing contract world session
      = (.ok (completed, fault), final)) :
    Serves specs completed ∧ completed.metadata = contract.metadata := by
  have kept := fetchEach_induction (fun rest reached =>
    (∀ entry ∈ rest, ∀ spec, (entry.1, spec) ∈ specs → Declares spec entry.2.hash) ∧
      Serves specs reached ∧ reached.metadata = contract.metadata)
    ?pass ?supply ⟨declares, serves, rfl⟩ returned
  · exact kept.choose_spec.2
  case pass =>
    rintro entry rest reached ⟨declares, served⟩
    exact ⟨(List.forall_mem_cons.mp declares).2, served⟩
  case supply =>
    rintro path source rest reached content ⟨declares, serves, same⟩ right
    obtain ⟨first, later⟩ := List.forall_mem_cons.mp declares
    exact ⟨later, serves.supply first right, same⟩

end

/-- What a contract is completed to: itself if nothing is missing, else what fetching comes to. -/
inductive CompletesTo (contract : Contract) : Contract → Prop
  | atHand (complete : contract.isComplete = true) : CompletesTo contract contract
  | fetched {gateways : Gateways} {logger : Logger} {world : World} {session final : Session}
      {completed : Contract} (returned : contract.fetchMissing gateways logger world session
        = (.ok (completed, none), final)) : CompletesTo contract completed

theorem serves_of_completesTo {contract completed : Contract} {specs : List (String × Json)}
    (completes : contract.CompletesTo completed) (serves : Serves specs contract)
    (declares : ∀ entry ∈ contract.missing, ∀ spec, (entry.1, spec) ∈ specs →
      Declares spec entry.2.hash) :
    Serves specs completed ∧ completed.missing = [] ∧ completed.metadata = contract.metadata := by
  cases completes with
  | atHand complete => exact ⟨serves, isComplete_iff.mp complete, rfl⟩
  | fetched returned =>
    obtain ⟨each, complete⟩ := fetchMissing_eq_ok returned
    obtain ⟨served, same⟩ := serves_of_fetchEach declares serves each
    exact ⟨served, isComplete_iff.mp complete, same⟩

theorem Names.nodup {metadata : Json} {specs : List (String × Json)} (names : Names metadata specs)
    (wellFormed : metadata.WellFormed) : (Table.keys specs).Nodup := by
  obtain ⟨value, isValue, isObject⟩ := Outcome.bind_eq_ok.mp names
  obtain ⟨members, opened, rfl⟩ := Outcome.map_eq_ok.mp isValue
  cases Json.eq_object_of_members opened
  have listed := Json.eq_object_of_members isObject
  cases found : Table.get? "sources" members with
  | none =>
    rw [found] at listed
    cases listed
    exact List.nodup_nil
  | some value =>
    rw [found] at listed
    cases wellFormed with
    | object _ each =>
      have inner := each _ (Table.mem_of_get? found)
      cases listed
      cases inner with
      | object distinct _ => exact distinct

theorem read_of_ofText {text : String} {document : Document}
    (returned : Document.ofText text = .ok document) : Json.read text = .ok document.metadata := by
  unfold Document.ofText at returned
  split at returned
  · split at returned <;> cases returned
  next metadata read =>
    obtain ⟨_, _, same⟩ := Outcome.bind_eq_ok.mp returned
    cases same
    exact read

/-- Matching an upload is reading it and settling each of the sources that its document names. -/
theorem ofUpload_eq_ok_iff {text : String} {uploaded : Json} {contract : Contract} :
    ofUpload (.string text) uploaded = .ok contract ↔
      ∃ document files specs sources missing, Document.ofText text = .ok document ∧
        uploadedFiles uploaded = .ok files ∧ Names document.metadata specs ∧
        Sorts files specs sources missing ∧
        contract = ⟨document.name, document.compiledPath, document.metadata, sources, missing⟩ := by
  constructor
  · intro matched
    obtain ⟨document, read, matched⟩ := Outcome.bind_eq_ok.mp matched
    obtain ⟨files, uploads, matched⟩ := Outcome.bind_eq_ok.mp matched
    obtain ⟨value, isValue, matched⟩ := Outcome.bind_eq_ok.mp (Outcome.mapError_eq_ok.mp matched)
    obtain ⟨specs, isObject, matched⟩ := Outcome.bind_eq_ok.mp matched
    obtain ⟨⟨sources, missing⟩, placed, matched⟩ := Outcome.bind_eq_ok.mp matched
    cases matched
    exact ⟨document, files, specs, sources, missing, read, Outcome.mapError_eq_ok.mp uploads,
      Outcome.bind_eq_ok.mpr ⟨value, isValue, isObject⟩, placeSources_eq_ok_iff.mp placed, rfl⟩
  · rintro ⟨document, files, specs, sources, missing, read, uploads, names, sorts, rfl⟩
    obtain ⟨value, isValue, isObject⟩ := Outcome.bind_eq_ok.mp names
    have matched : document.withFiles files
        = .ok ⟨document.name, document.compiledPath, document.metadata, sources, missing⟩ :=
      Outcome.bind_eq_ok.mpr ⟨value, isValue, Outcome.bind_eq_ok.mpr ⟨specs, isObject,
        Outcome.bind_eq_ok.mpr ⟨_, placeSources_eq_ok_iff.mpr sorts, rfl⟩⟩⟩
    exact Outcome.bind_eq_ok.mpr ⟨document, read, Outcome.bind_eq_ok.mpr
      ⟨files, Outcome.mapError_eq_ok.mpr uploads, Outcome.mapError_eq_ok.mpr matched⟩⟩

/-- A document that was read names each source once, and after matching its sources are served. -/
theorem serves_of_ofUpload {text files : Json} {contract : Contract}
    (matched : ofUpload text files = .ok contract) :
    ∃ specs, Names contract.metadata specs ∧ Serves specs contract ∧
      ∀ entry ∈ contract.missing, ∀ spec, (entry.1, spec) ∈ specs → Declares spec entry.2.hash := by
  cases text with
  | string text =>
    obtain ⟨document, uploaded, specs, sources, missing, read, _, names, sorts, rfl⟩ :=
      ofUpload_eq_ok_iff.mp matched
    have distinct := names.nodup (Json.wellFormed_of_read (read_of_ofText read))
    have places := sorts.places
    refine ⟨specs, names, ⟨fun path spec content named found => ?_, places.covers⟩,
      fun entry member spec named => ?_⟩
    · obtain ⟨other, named', suits⟩ := places.suits _ (Table.mem_of_get? found)
      rwa [Table.eq_of_mem_of_nodup distinct named named']
    · obtain ⟨other, named', declares⟩ := places.declares entry member
      rwa [Table.eq_of_mem_of_nodup distinct named named']
  | _ => cases matched

/-! ### The input of the compiler -/

theorem findSource_of_bound {sources : Table String Json} {path : String} {content : Json}
    (bound : sources.get? path = some content) :
    Compiler.findSource (.object sources) path = .ok content := by
  rw [Compiler.findSource, Json.mentions, Table.has, Json.member, Json.select, bound]
  rfl

/-- The input is refused only because of a content that the document itself holds. -/
theorem inline_of_inputSources {contract : Contract} {specs : List (String × Json)}
    (serves : Serves specs contract) (complete : contract.missing = []) {part : List (String × Json)}
    (among : ∀ entry ∈ part, entry ∈ specs) {fault : Fault}
    (failed : Compiler.inputSources (.object contract.sources) part = .error fault) :
    ∃ path spec content, (path, spec) ∈ specs ∧ Inline spec content ∧
      Compiler.checkSource path spec content = .error fault := by
  induction part with
  | nil => cases failed
  | cons entry rest ih =>
    obtain ⟨path, spec⟩ := entry
    obtain ⟨named, others⟩ := List.forall_mem_cons.mp among
    -- Nothing is missing, so the source is at hand.
    have atHand : path ∈ contract.sources.keys := by
      rcases serves.covers path (List.mem_map.mpr ⟨_, named, rfl⟩) with atHand | lacking
      · exact atHand
      · rw [complete] at lacking
        cases lacking
    have has := (Table.has_iff_mem_keys path contract.sources).mpr atHand
    obtain ⟨content, bound⟩ := Option.isSome_iff_exists.mp has
    have found := findSource_of_bound bound
    rw [Compiler.inputSources] at failed
    rcases Outcome.bind_eq_error failed with absent | ⟨reached, isFound, failed⟩
    · rw [found] at absent
      cases absent
    cases found.symm.trans isFound
    rcases Outcome.bind_eq_error failed with refused | ⟨_, _, failed⟩
    · rcases serves.suits path spec content named bound with held | passes
      · exact ⟨path, spec, content, named, held, refused⟩
      · rw [passes] at refused
        cases refused
    rcases Outcome.bind_eq_error failed with later | ⟨_, _, returned⟩
    · exact ih others later
    · cases returned

theorem fault_of_checkSource {path : String} {spec content : Json} {fault : Fault}
    (failed : Compiler.checkSource path spec content = .error fault) :
    (∃ why, fault = .shape why) ∨ fault = .compilation (.sourceChanged path) := by
  unfold Compiler.checkSource at failed
  split at failed
  · cases failed
    exact .inl ⟨_, rfl⟩
  · split at failed
    · cases failed
    · split at failed
      · cases failed
        exact .inl ⟨_, rfl⟩
      · cases failed
        exact .inl ⟨_, rfl⟩
      · split at failed
        · cases failed
        · cases failed
          exact .inr rfl

/-- A refusal of the whole input that is not about the shape of the document is one of its sources. -/
theorem inputSources_of_standardInput {metadata sources : Json} {specs : List (String × Json)}
    {fault : Fault} (names : Names metadata specs) (shaped : ∀ why, fault ≠ .shape why)
    (failed : Compiler.standardInput metadata sources = .error fault) :
    Compiler.inputSources sources specs = .error fault := by
  have unshaped {α : Type} {value : Except ShapeFault α} (failed : value.mapError .shape = .error fault) :
      False := by
    obtain ⟨why, same⟩ := Fault.eq_shape_of_mapError failed
    exact shaped why same
  rcases Outcome.bind_eq_error failed with failed | ⟨listed, isListed, failed⟩
  · exact (unshaped failed).elim
  cases names.symm.trans (Outcome.mapError_eq_ok.mp isListed)
  rcases Outcome.bind_eq_error failed with refused | ⟨_, _, failed⟩
  · exact refused
  rcases Outcome.bind_eq_error failed with failed | ⟨_, _, failed⟩
  · exact (unshaped failed).elim
  rcases Outcome.bind_eq_error failed with failed | ⟨_, _, failed⟩
  · exact (unshaped failed).elim
  · cases failed

/-- When all sources of a document are at hand, by upload or by fetching, none of them is missing in
the input of the compiler, and a source is refused there only if the document itself holds it. -/
theorem input_of_matched {text files : Json} {contract completed : Contract}
    (matched : ofUpload text files = .ok contract) (completes : contract.CompletesTo completed) :
    ∃ specs, Names completed.metadata specs ∧
      (∀ fault, Compiler.inputSources (.object completed.sources) specs = .error fault →
        ∃ path spec content, (path, spec) ∈ specs ∧ Inline spec content ∧
          Compiler.checkSource path spec content = .error fault) ∧
      (∀ path, Compiler.standardInput completed.metadata (.object completed.sources)
        ≠ .error (.compilation (.sourceMissing path))) ∧
      ∀ path, Compiler.standardInput completed.metadata (.object completed.sources)
          = .error (.compilation (.sourceChanged path)) →
        ∃ spec content, (path, spec) ∈ specs ∧ Inline spec content := by
  obtain ⟨specs, names, serves, declares⟩ := serves_of_ofUpload matched
  obtain ⟨served, complete, same⟩ := serves_of_completesTo completes serves declares
  rw [← same] at names
  have inline (fault : Fault)
      (failed : Compiler.inputSources (.object completed.sources) specs = .error fault) :
      ∃ path spec content, (path, spec) ∈ specs ∧ Inline spec content ∧
        Compiler.checkSource path spec content = .error fault :=
    inline_of_inputSources served complete (fun _ named => named) failed
  refine ⟨specs, names, inline, fun path failed => ?_, fun path failed => ?_⟩
  · obtain ⟨other, spec, content, _, _, refused⟩ :=
      inline _ (inputSources_of_standardInput names (fun _ same => Fault.noConfusion same) failed)
    rcases fault_of_checkSource refused with ⟨why, isShape⟩ | changed
    · cases isShape
    · cases changed
  · obtain ⟨other, spec, content, named, held, refused⟩ :=
      inline _ (inputSources_of_standardInput names (fun _ same => Fault.noConfusion same) failed)
    rcases fault_of_checkSource refused with ⟨why, isShape⟩ | changed
    · cases isShape
    · cases changed
      exact ⟨spec, content, named, held⟩

/-! ### An upload -/

namespace Sample

/-- The document holds its first source, but declares a hash that it does not have. The second one has
no hash and is matched by its path. -/
def text : String :=
  "\x7b\"settings\": \x7b\"compilationTarget\": \x7b\"a.sol\": \"A\"\x7d\x7d, \"sources\": " ++
  "\x7b\"a.sol\": \x7b\"content\": \"contract A\", \"keccak256\": \"0xAB\"\x7d, \"b.sol\": \x7b\x7d\x7d\x7d"

def specs : List (String × Json) :=
  [("a.sol", .object [("content", .string "contract A"), ("keccak256", .string "0xAB")]),
    ("b.sol", .object [])]

def metadata : Json :=
  .object [("settings", .object [("compilationTarget", .object [("a.sol", .string "A")])]),
    ("sources", .object specs)]

def files : Json := .object [("b.sol", .string "contract B")]

def contract : Contract :=
  ⟨.string "A", "a.sol", metadata,
    [("a.sol", .string "contract A"), ("b.sol", .string "contract B")], []⟩

theorem read_text : Json.read text = .ok metadata := Outcome.eq_ok_of_toOption (by decide +kernel)

theorem sorts_specs : Sorts [("b.sol", "contract B")] specs contract.sources [] := by
  have held : Inline (.object [("content", .string "contract A"), ("keccak256", .string "0xAB")])
      (.string "contract A") := ⟨_, rfl, rfl⟩
  have unhashed : Declares (.object []) "" := ⟨[], "", rfl, rfl, rfl⟩
  apply Sorts.found (.inline ⟨_, "0xAB", rfl, rfl, rfl⟩ held)
  exact .found (.named unhashed (get?_content_eq_none.mp rfl) rfl) .nil

theorem ofUpload_text : ofUpload (.string text) files = .ok contract := by
  have document : Document.ofText text = .ok ⟨metadata, "a.sol", .string "A"⟩ := by
    rw [Document.ofText, read_text]
    rfl
  apply ofUpload_eq_ok_iff.mpr
  exact ⟨_, _, specs, _, _, document, rfl, rfl, sorts_specs, rfl⟩

end Sample

/-- The source that the document holds may be refused, and the one that was matched is not. -/
theorem input_of_matched_of_inline :
    ofUpload (.string Sample.text) Sample.files = .ok Sample.contract ∧
    Sample.contract.CompletesTo Sample.contract ∧
    ∃ specs, Names Sample.contract.metadata specs ∧
      (∀ fault, Compiler.inputSources (.object Sample.contract.sources) specs = .error fault →
        ∃ path spec content, (path, spec) ∈ specs ∧ Inline spec content ∧
          Compiler.checkSource path spec content = .error fault) ∧
      (∀ path, Compiler.standardInput Sample.contract.metadata (.object Sample.contract.sources)
        ≠ .error (.compilation (.sourceMissing path))) ∧
      ∀ path, Compiler.standardInput Sample.contract.metadata (.object Sample.contract.sources)
          = .error (.compilation (.sourceChanged path)) →
        ∃ spec content, (path, spec) ∈ specs ∧ Inline spec content := by
  have completes : Sample.contract.CompletesTo Sample.contract := .atHand rfl
  exact ⟨Sample.ofUpload_text, completes, input_of_matched Sample.ofUpload_text completes⟩

end Contract

end SourceAttest
