import SourceAttest.Proofs.Contract.Uploads
import SourceAttest.Proofs.Json.Shape

/-!
# Documents that are refused

An upload is outside text. It is read as a contract (`Accepts`), or it is rejected as no request at all:
its text is no JSON or names no single target (`Rejects`). Everything else that is wrong with it is not
looked for: then reading ends with a fault that is no rejection (`Strays`). The main result
`ofUpload_outcome` says that each of the three has its own outcome.
-/
namespace SourceAttest.Contract

/-! ### The target of a document -/

/-- What a document records as its compilation target: an empty object if it records nothing. -/
def recorded (metadata : Json) : Except ShapeFault Json := do
  (← metadata.memberOr "settings" (.object [])).memberOr "compilationTarget" (.object [])

/-- The only entry of a recorded target. -/
def entryOf (notSingle : Fault) (target : Json) : Except Fault (String × Json) := do
  let count ← target.length.mapError .shape
  if count ≠ 1 then .error notSingle
  else
    match ← (target.members "items").mapError .shape with
    | entry :: _ => .ok entry
    | [] => .error notSingle

def Records (metadata target : Json) : Prop := recorded metadata = .ok target

section

variable {notSingle : Fault} {metadata found : Json}

theorem target_eq (notSingle : Fault) (metadata : Json) :
    target notSingle metadata = (recorded metadata).mapError .shape >>= entryOf notSingle := by
  rw [target, recorded]
  cases metadata.memberOr "settings" (.object []) with
  | error why => rfl
  | ok settings => rfl

theorem target_of_records (records : Records metadata found) :
    target notSingle metadata = entryOf notSingle found := by
  rw [target_eq, records]
  rfl

theorem target_of_entry {path : String} {name : Json}
    (records : Records metadata (.object [(path, name)])) :
    target notSingle metadata = .ok (path, name) := by
  rw [target_of_records records]
  rfl

theorem target_of_count (records : Records metadata found) {count : Nat}
    (counted : found.length = .ok count) (other : count ≠ 1) :
    target notSingle metadata = .error notSingle := by
  rw [target_of_records records, entryOf, counted]
  exact if_pos other

theorem target_of_unrecorded (unrecorded : ∀ found, ¬ Records metadata found) :
    ∃ why, target notSingle metadata = .error (.shape why) ∧ why.kind = .attribute := by
  rw [target_eq]
  cases read : recorded metadata with
  | ok found => exact absurd read (unrecorded found)
  | error why =>
    refine ⟨why, rfl, ?_⟩
    rcases Outcome.bind_eq_error read with failed | ⟨settings, -, failed⟩
    · exact Json.kind_of_memberOr failed
    · exact Json.kind_of_memberOr failed

theorem target_of_isSingle (records : Records metadata found) (single : found.isSingle = true) :
    ∃ why, target notSingle metadata = .error (.shape why) ∧ why.kind = .type := by
  rw [target_of_records records]
  cases found with
  | string content => cases single
  | unpaired content => cases single
  | array items => cases single
  | object members => cases single
  | _ => exact ⟨_, rfl, rfl⟩

theorem target_of_part (records : Records metadata found) (counted : found.length = .ok 1)
    (noObject : ∀ members, found ≠ .object members) :
    ∃ why, target notSingle metadata = .error (.shape why) ∧ why.kind = .attribute := by
  rw [target_of_records records, entryOf, counted]
  cases found with
  | object members => exact absurd rfl (noObject members)
  | _ => exact ⟨_, rfl, rfl⟩

end

/-! ### Uploads -/

/-- Why a source is not settled, and the kind of fault that this ends in: the document does not say what
its hash is, or lists no URLs for a source that is missing. -/
inductive Unsettled (files : Table String String) (path : String) (spec : Json) : FaultKind → Prop
  | undeclared (undeclared : ∀ hash, ¬ Declares spec hash) : Unsettled files path spec .attribute
  | unlisted {hash : String} (declares : Declares spec hash)
      (bare : ∀ content, ¬ Inline spec content)
      (unhashed : (byHash files).get? hash = none) (unnamed : hash = "" → files.get? path = none)
      (unlisted : ∀ urls, ¬ Lists spec urls) : Unsettled files path spec .type

/-- A text is read as a contract: it is a document with a single target, and its sources are sorted. -/
inductive Accepts (files : Table String String) (text : String) : Contract → Prop
  | sorted {metadata name : Json} {path : String} {specs : List (String × Json)}
      {sources : Table String Json} {missing : Table String MissingSource}
      (read : Json.read text = .ok metadata) (records : Records metadata (.object [(path, name)]))
      (names : Names metadata specs) (sorts : Sorts files specs sources missing) :
      Accepts files text ⟨name, path, metadata, sources, missing⟩

/-- A text is rejected, whatever files come with it. -/
inductive Rejects (text : String) : RequestFault → Prop
  | malformed {why : Json.ReadError} (read : Json.read text = .error why)
      (malformed : why.isMalformed = true) : Rejects text (.metadataUnreadable why)
  | notSingle {metadata found : Json} {count : Nat} (read : Json.read text = .ok metadata)
      (records : Records metadata found) (counted : found.length = .ok count) (other : count ≠ 1) :
      Rejects text .targetNotSingle

/-- A text that no check is made for, and the kind of fault that it ends in. -/
inductive Strays (files : Table String String) (text : String) : FaultKind → Prop
  | overlong {digits : Nat} (read : Json.read text = .error (.overlongInteger digits)) :
      Strays files text .value
  | tooDeep {container : Json.Container} (read : Json.read text = .error (.tooDeep container)) :
      Strays files text .depth
  | unrecorded {metadata : Json} (read : Json.read text = .ok metadata)
      (unrecorded : ∀ found, ¬ Records metadata found) : Strays files text .attribute
  | single {metadata found : Json} (read : Json.read text = .ok metadata)
      (records : Records metadata found) (single : found.isSingle = true) : Strays files text .type
  | part {metadata found : Json} (read : Json.read text = .ok metadata)
      (records : Records metadata found) (counted : found.length = .ok 1)
      (noObject : ∀ members, found ≠ .object members) : Strays files text .attribute
  | unnamed {metadata name : Json} {path : String} (read : Json.read text = .ok metadata)
      (records : Records metadata (.object [(path, name)])) (unnamed : ∀ specs, ¬ Names metadata specs) :
      Strays files text .attribute
  | unsettled {metadata name spec : Json} {path source : String} {before after : List (String × Json)}
      {kind : FaultKind} (read : Json.read text = .ok metadata)
      (records : Records metadata (.object [(path, name)]))
      (names : Names metadata (before ++ (source, spec) :: after))
      (settled : ∀ entry ∈ before, ∃ placement, Settles files entry.1 entry.2 placement)
      (unsettled : Unsettled files source spec kind) : Strays files text kind

section

variable {files : Table String String} {path : String} {spec : Json}

theorem settles_or_unsettled (files : Table String String) (path : String) (spec : Json) :
    (∃ placement, Settles files path spec placement) ∨ ∃ kind, Unsettled files path spec kind := by
  -- The rules are asked in the order of matching; each later one may assume that no earlier one applied.
  by_cases declared : ∃ hash, Declares spec hash
  case neg => exact .inr ⟨_, .undeclared fun hash declares => declared ⟨hash, declares⟩⟩
  obtain ⟨hash, declares⟩ := declared
  by_cases held : ∃ content, Inline spec content
  case pos =>
    obtain ⟨content, inline⟩ := held
    exact .inl ⟨_, .inline declares inline⟩
  have bare (content : Json) : ¬ Inline spec content := fun inline => held ⟨content, inline⟩
  cases hashed : (byHash files).get? hash with
  | some content => exact .inl ⟨_, .hashed declares bare hashed⟩
  | none =>
    by_cases named : hash = "" ∧ ∃ content, files.get? path = some content
    · obtain ⟨rfl, content, found⟩ := named
      exact .inl ⟨_, .named declares bare found⟩
    · have unnamed (empty : hash = "") : files.get? path = none := by
        cases found : files.get? path with
        | none => rfl
        | some content => exact absurd ⟨empty, content, found⟩ named
      by_cases listed : ∃ urls, Lists spec urls
      · obtain ⟨urls, listed⟩ := listed
        exact .inl ⟨_, .missing declares bare hashed unnamed listed⟩
      · have unlisted (urls : List Json) : ¬ Lists spec urls := fun lists => listed ⟨urls, lists⟩
        exact .inr ⟨_, .unlisted declares bare hashed unnamed unlisted⟩

theorem sorts_of_settles {specs : List (String × Json)}
    (settled : ∀ entry ∈ specs, ∃ placement, Settles files entry.1 entry.2 placement) :
    ∃ sources missing, Sorts files specs sources missing := by
  induction specs with
  | nil => exact ⟨[], [], .nil⟩
  | cons entry rest ih =>
    obtain ⟨⟨placement, settles⟩, settled⟩ := List.forall_mem_cons.mp settled
    obtain ⟨sources, missing, sorts⟩ := ih settled
    cases placement with
    | found content => exact ⟨_, _, .found settles sorts⟩
    | missing source => exact ⟨_, _, .missing settles sorts⟩

/-- The sources can be sorted, or there is a first one that is not settled. -/
theorem sorts_or_unsettled (files : Table String String) (specs : List (String × Json)) :
    (∃ sources missing, Sorts files specs sources missing) ∨
    ∃ before source spec after kind, specs = before ++ (source, spec) :: after ∧
      (∀ entry ∈ before, ∃ placement, Settles files entry.1 entry.2 placement) ∧
      Unsettled files source spec kind := by
  rcases Outcome.all_or_first (fun entry => ∃ placement, Settles files entry.1 entry.2 placement)
      specs with settled | ⟨before, ⟨source, spec⟩, after, same, settled, fails⟩
  · exact .inl (sorts_of_settles settled)
  · obtain ⟨kind, unsettled⟩ := (settles_or_unsettled files source spec).resolve_left fails
    exact .inr ⟨before, source, spec, after, kind, same, settled, unsettled⟩

end

/-- What a document records is a single target, a wrong number of targets, or nothing of the kind. -/
theorem cases_of_recorded {metadata found : Json} (records : Records metadata found) :
    (∃ path name, Records metadata (.object [(path, name)])) ∨
    (∃ count, found.length = .ok count ∧ count ≠ 1) ∨ found.isSingle = true ∨
    found.length = .ok 1 ∧ ∀ members, found ≠ .object members := by
  by_cases single : found.isSingle = true
  · exact .inr (.inr (.inl single))
  obtain ⟨count, counted⟩ := Json.exists_length (Bool.eq_false_iff.mpr single)
  by_cases other : count ≠ 1
  · exact .inr (.inl ⟨count, counted, other⟩)
  have one : count = 1 := Decidable.not_not.mp other
  subst one
  cases found with
  | object members =>
    obtain ⟨⟨path, name⟩, rfl⟩ := List.length_eq_one_iff.mp (Except.ok.inj counted)
    exact .inl ⟨path, name, records⟩
  | _ => exact .inr (.inr (.inr ⟨counted, by rintro _ ⟨⟩⟩))

/-- A text is accepted, rejected or neither. -/
theorem cases_of_text (files : Table String String) (text : String) :
    (∃ contract, Accepts files text contract) ∨ (∃ why, Rejects text why) ∨
      ∃ kind, Strays files text kind := by
  cases read : Json.read text with
  | error why =>
    cases why with
    | malformed => exact .inr (.inl ⟨_, .malformed read rfl⟩)
    | overlongInteger digits => exact .inr (.inr ⟨_, .overlong read⟩)
    | tooDeep container => exact .inr (.inr ⟨_, .tooDeep read⟩)
  | ok metadata =>
    by_cases recorded : ∃ found, Records metadata found
    case neg => exact .inr (.inr ⟨_, .unrecorded read fun found records => recorded ⟨found, records⟩⟩)
    obtain ⟨found, records⟩ := recorded
    rcases cases_of_recorded records with
      ⟨path, name, target⟩ | ⟨count, counted, other⟩ | single | ⟨counted, noObject⟩
    · by_cases named : ∃ specs, Names metadata specs
      case neg => exact .inr (.inr ⟨_, .unnamed read target fun specs names => named ⟨specs, names⟩⟩)
      obtain ⟨specs, names⟩ := named
      rcases sorts_or_unsettled files specs with
        ⟨sources, missing, sorts⟩ | ⟨before, source, spec, after, kind, rfl, settled, unsettled⟩
      · exact .inl ⟨_, .sorted read target names sorts⟩
      · exact .inr (.inr ⟨kind, .unsettled read target names settled unsettled⟩)
    · exact .inr (.inl ⟨_, .notSingle read records counted other⟩)
    · exact .inr (.inr ⟨_, .single read records single⟩)
    · exact .inr (.inr ⟨_, .part read records counted noObject⟩)

/-! ### Outcomes -/

section

variable {files : Table String String} {text path : String} {spec : Json}

theorem uploadedFiles_ofTexts (files : Table String String) :
    uploadedFiles (.ofTexts files) = .ok files := by
  have each (files : Table String String) :
      (files.map fun file => (file.1, Json.string file.2)).mapM
        (fun file => (sourceText file.2).map fun content => (file.1, content))
        = Except.ok files := by
    induction files with
    | nil => rfl
    | cons file rest ih =>
      rw [List.map_cons, List.mapM_cons, ih]
      rfl
  cases files with
  | nil => rfl
  | cons file rest => exact each (file :: rest)

/-- A source fails to be placed because of what it declares, or because of the URLs that it lists. -/
theorem kind_of_placeSource {hashed : Table String String} {why : ShapeFault}
    (failed : placeSource files hashed path spec = .error why) :
    why.kind = .attribute ∧ (∀ hash, ¬ Declares spec hash) ∨
      why.kind = .type ∧ ∃ hash, Declares spec hash := by
  rcases Outcome.bind_eq_error failed with unread | ⟨value, isValue, hashing⟩
  · refine .inl ⟨Json.kind_of_memberOr unread, ?_⟩
    rintro _ ⟨members, declared, rfl, -⟩
    cases unread
  rcases Outcome.bind_eq_error hashing with noText | ⟨declared, isText, opening⟩
  · refine .inl ⟨Json.kind_of_text noText, ?_⟩
    rintro _ ⟨members, declared, rfl, isDeclared, -⟩
    cases isValue
    cases noText.symm.trans (Json.text_eq_ok_iff.mpr isDeclared)
  obtain ⟨members, isObject, named⟩ := Outcome.map_eq_ok.mp isValue
  cases Json.eq_object_of_members isObject
  refine .inr ⟨?_, _, members, declared, rfl, named ▸ Json.text_eq_ok_iff.mp isText, rfl⟩
  rcases Outcome.bind_eq_error opening with unopened | ⟨_, ⟨⟩, placing⟩
  · cases unopened
  -- Only a source that is not found anywhere is asked for its URLs.
  split at placing
  · cases placing
  split at placing
  · cases placing
  split at placing
  · cases placing
  rcases Outcome.bind_eq_error placing with unread | ⟨listed, _, listing⟩
  · cases unread
  rcases Outcome.bind_eq_error listing with unlisted | ⟨urls, _, returned⟩
  · exact Json.kind_of_items unlisted
  · cases returned

theorem Settles.not_unsettled {placement : Placement} {kind : FaultKind}
    (settles : Settles files path spec placement) : ¬ Unsettled files path spec kind := by
  intro unsettled
  cases unsettled with
  | undeclared undeclared => cases settles <;> exact undeclared _ ‹_›
  | unlisted declares bare unhashed unnamed unlisted =>
    cases settles with
    | inline _ held => exact bare _ held
    | hashed declares' _ found =>
      rw [declares.unique declares', found] at unhashed
      cases unhashed
    | named declares' _ found => cases found.symm.trans (unnamed (declares.unique declares'))
    | missing _ _ _ _ listed => exact unlisted _ listed

theorem placeSource_of_unsettled {kind : FaultKind} (unsettled : Unsettled files path spec kind) :
    ∃ why, placeSource files (byHash files) path spec = .error why ∧ why.kind = kind := by
  cases placed : placeSource files (byHash files) path spec with
  | ok placement => exact absurd unsettled (settles_of_placeSource placed).not_unsettled
  | error why =>
    refine ⟨why, rfl, ?_⟩
    rcases kind_of_placeSource placed with ⟨isKind, undeclared⟩ | ⟨isKind, hash, declares⟩
    · cases unsettled with
      | undeclared _ => exact isKind
      | unlisted declares => exact absurd declares (undeclared _)
    · cases unsettled with
      | undeclared undeclared => exact absurd declares (undeclared hash)
      | unlisted _ => exact isKind

theorem placeSources_of_unsettled {before after : List (String × Json)} {kind : FaultKind}
    (settled : ∀ entry ∈ before, ∃ placement, Settles files entry.1 entry.2 placement)
    (unsettled : Unsettled files path spec kind) :
    ∃ why, placeSources files (byHash files) (before ++ (path, spec) :: after) = .error why ∧
      why.kind = kind := by
  induction before with
  | nil =>
    obtain ⟨why, failed, isKind⟩ := placeSource_of_unsettled unsettled
    refine ⟨why, ?_, isKind⟩
    rw [List.nil_append, placeSources, failed]
    rfl
  | cons entry rest ih =>
    obtain ⟨⟨placement, settles⟩, settled⟩ := List.forall_mem_cons.mp settled
    obtain ⟨why, failed, isKind⟩ := ih settled
    refine ⟨why, ?_, isKind⟩
    rw [List.cons_append, placeSources, placeSource_of_settles settles, failed]
    rfl

theorem ofText_of_read {metadata : Json} (read : Json.read text = .ok metadata) :
    Document.ofText text = (target (.request .targetNotSingle) metadata).map fun entry =>
      ⟨metadata, entry.1, entry.2⟩ := by
  rw [Document.ofText, read]
  dsimp only
  cases target (.request .targetNotSingle) metadata with
  | error fault => rfl
  | ok entry => rfl

theorem ofUpload_of_unread {why : Json.ReadError} (read : Json.read text = .error why) (upload : Json) :
    ofUpload (.string text) upload
      = .error (if why.isMalformed then .request (.metadataUnreadable why) else .unreadable why) := by
  rw [ofUpload, Document.ofText, read]
  cases why <;> rfl

theorem ofUpload_of_target {metadata : Json} {fault : Fault} (read : Json.read text = .ok metadata)
    (failed : target (.request .targetNotSingle) metadata = .error fault) (upload : Json) :
    ofUpload (.string text) upload = .error fault := by
  rw [ofUpload, ofText_of_read read, failed]
  rfl

theorem ofUpload_of_sources {metadata name : Json} {why : ShapeFault}
    (read : Json.read text = .ok metadata) (records : Records metadata (.object [(path, name)]))
    (failed : Document.withFiles ⟨metadata, path, name⟩ files = .error why) :
    ofUpload (.string text) (.ofTexts files) = .error (.shape why) := by
  rw [ofUpload, ofText_of_read read, target_of_entry records, uploadedFiles_ofTexts]
  exact congrArg (·.mapError Fault.shape) failed

theorem ofUpload_of_accepts {contract : Contract} (accepts : Accepts files text contract) :
    ofUpload (.string text) (.ofTexts files) = .ok contract := by
  cases accepts with
  | @sorted metadata name path specs sources missing read records names sorts =>
    have document : Document.ofText text = .ok ⟨metadata, path, name⟩ := by
      rw [ofText_of_read read, target_of_entry records]
      rfl
    exact ofUpload_eq_ok_iff.mpr ⟨_, files, specs, sources, missing, document,
      uploadedFiles_ofTexts files, names, sorts, rfl⟩

theorem ofUpload_of_rejects {why : RequestFault} (rejects : Rejects text why) (upload : Json) :
    ofUpload (.string text) upload = .error (.request why) := by
  cases rejects with
  | malformed read malformed => rw [ofUpload_of_unread read, if_pos malformed]
  | notSingle read records counted other =>
    exact ofUpload_of_target read (target_of_count records counted other) upload

theorem ofUpload_of_strays {kind : FaultKind} (strays : Strays files text kind) :
    ∃ fault, ofUpload (.string text) (.ofTexts files) = .error fault ∧ fault.kind = kind ∧
      ∀ why, fault ≠ .request why := by
  have shaped {why : ShapeFault} (failed : ofUpload (.string text) (.ofTexts files)
      = .error (.shape why)) (isKind : why.kind = kind) :
      ∃ fault, ofUpload (.string text) (.ofTexts files) = .error fault ∧ fault.kind = kind ∧
        ∀ why, fault ≠ .request why :=
    ⟨_, failed, isKind, by rintro _ ⟨⟩⟩
  cases strays with
  | overlong read => exact ⟨_, ofUpload_of_unread read _, rfl, by rintro _ ⟨⟩⟩
  | tooDeep read => exact ⟨_, ofUpload_of_unread read _, rfl, by rintro _ ⟨⟩⟩
  | unrecorded read unrecorded =>
    obtain ⟨why, failed, isKind⟩ := target_of_unrecorded unrecorded
    exact shaped (ofUpload_of_target read failed _) isKind
  | single read records single =>
    obtain ⟨why, failed, isKind⟩ := target_of_isSingle records single
    exact shaped (ofUpload_of_target read failed _) isKind
  | part read records counted noObject =>
    obtain ⟨why, failed, isKind⟩ := target_of_part records counted noObject
    exact shaped (ofUpload_of_target read failed _) isKind
  | @unnamed metadata name path read records unnamed =>
    cases matched : Document.withFiles ⟨metadata, path, name⟩ files with
    | ok contract =>
      obtain ⟨value, isValue, opening⟩ := Outcome.bind_eq_ok.mp matched
      obtain ⟨specs, isObject, -⟩ := Outcome.bind_eq_ok.mp opening
      exact absurd (Outcome.bind_eq_ok.mpr ⟨value, isValue, isObject⟩) (unnamed specs)
    | error why =>
      -- Without names there is nothing to place, so it is reading the names that has failed.
      refine shaped (ofUpload_of_sources read records matched) ?_
      rcases Outcome.bind_eq_error matched with unread | ⟨value, isValue, opening⟩
      · exact Json.kind_of_memberOr unread
      rcases Outcome.bind_eq_error opening with noObject | ⟨specs, isObject, -⟩
      · exact Json.kind_of_members noObject
      · exact absurd (Outcome.bind_eq_ok.mpr ⟨value, isValue, isObject⟩) (unnamed specs)
  | @unsettled metadata name spec path source before after _ read records names settled unsettled =>
    obtain ⟨why, failed, isKind⟩ := placeSources_of_unsettled settled unsettled
    refine shaped (ofUpload_of_sources read records ?_) isKind
    obtain ⟨value, isValue, isObject⟩ := Outcome.bind_eq_ok.mp names
    rw [Document.withFiles, isValue]
    change (value.members "items" >>= _) = _
    rw [isObject]
    change (placeSources files (byHash files) _ >>= _) = _
    rw [failed]
    rfl

end

/-- Every upload is accepted, rejected or neither, and each has its own outcome: the contract that the
sources are sorted into, the fault of a request, or a fault of another kind. -/
theorem ofUpload_outcome (text : String) (files : Table String String) :
    (∀ contract, ofUpload (.string text) (.ofTexts files) = .ok contract ↔
      Accepts files text contract) ∧
    (∀ why, ofUpload (.string text) (.ofTexts files) = .error (.request why) ↔ Rejects text why) ∧
    ∀ kind, (∃ fault, ofUpload (.string text) (.ofTexts files) = .error fault ∧ fault.kind = kind ∧
        ∀ why, fault ≠ .request why) ↔ Strays files text kind := by
  apply Outcome.iff_of_cases (fun why other same => Fault.request.inj same) (cases_of_text files text)
  · exact fun contract accepts => ofUpload_of_accepts accepts
  · exact fun why rejects => ofUpload_of_rejects rejects _
  · exact fun kind strays => ofUpload_of_strays strays

/-- A list records no target, and it is not rejected either. -/
theorem ofUpload_of_list :
    ofUpload (.string "[]") (.ofTexts []) = .error (.shape (.noOperation "list" "get")) ∧
      (Fault.shape (.noOperation "list" "get")).kind ≠ .validation :=
  ⟨rfl, by decide⟩

end SourceAttest.Contract
