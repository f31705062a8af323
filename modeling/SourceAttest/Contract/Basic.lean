import SourceAttest.Base16
import SourceAttest.Fault.Basic
import SourceAttest.Keccak
import SourceAttest.Text.Lowercase

/-!
# Contracts and their sources

A metadata document names the contract that was compiled and all source files with their hashes.
Uploaded files are matched to the sources by content; what is not found is missing and may be
fetched later.
-/
namespace SourceAttest

/-- The hash of a source text, as metadata documents record it. -/
def sourceHash (content : String) : String :=
  String.ofList ('0' :: 'x' :: Base16.encode (Keccak.digestText content))

/-- The text of a source, which is needed for its hash. -/
def sourceText : Json → Except ShapeFault String
  | .string content => .ok content
  | .unpaired content => .error (.notEncodable content)
  | .null => .error (.notText "NoneType")
  | other => .error (.noOperation other.kindName "encode")

/-- A source that is not at hand: its hash and where it may be found. -/
structure MissingSource where
  hash : String
  urls : List Json
deriving Repr

/-- A metadata document with the sources that are at hand and those that are missing. -/
structure Contract where
  name : Json
  compiledPath : String
  metadata : Json
  sources : Table String Json
  missing : Table String MissingSource
deriving Repr

namespace Contract

def isComplete (contract : Contract) : Bool := contract.missing.isEmpty

/-- The compilation target in the settings of a document: one file and the name of a contract.
`notSingle` is the fault if there is not exactly one. -/
def target (notSingle : Fault) (metadata : Json) : Except Fault (String × Json) :=
  let shaped {α : Type} (value : Except ShapeFault α) : Except Fault α := value.mapError .shape
  do
    let settings ← shaped (metadata.memberOr "settings" (.object []))
    let target ← shaped (settings.memberOr "compilationTarget" (.object []))
    let count ← shaped target.length
    if count ≠ 1 then .error notSingle
    else
      match ← shaped (target.members "items") with
      | entry :: _ => .ok entry
      | [] => .error notSingle

/-- Where a source is found. -/
inductive Placement where
  | found (content : Json)
  | missing (source : MissingSource)

def byHash (files : Table String String) : Table String String :=
  Table.ofEntries (files.values.map fun content => (sourceHash content, content))

/-- Place a source: by its own content in the document, by its hash among the uploaded files, or,
if it declares no hash, by its path among them. -/
def placeSource (files hashed : Table String String) (path : String) (spec : Json) :
    Except ShapeFault Placement := do
  let declared ← (← spec.memberOr "keccak256" (.string "")).text "lower"
  let hash := Text.lower declared
  let members ← spec.members "get"
  match Table.get? "content" members with
  | some content => return .found content
  | none =>
    match hashed.get? hash with
    | some content => return .found (.string content)
    | none =>
      match if hash = "" then files.get? path else none with
      | some content => return .found (.string content)
      | none =>
        return .missing ⟨hash, ← (← spec.memberOr "urls" (.array [])).items⟩

def placeSources (files hashed : Table String String) :
    List (String × Json) → Except ShapeFault (Table String Json × Table String MissingSource)
  | [] => .ok ([], [])
  | (path, spec) :: rest => do
    let placement ← placeSource files hashed path spec
    let (sources, missing) ← placeSources files hashed rest
    match placement with
    | .found content => return ((path, content) :: sources, missing)
    | .missing source => return (sources, (path, source) :: missing)

/-- A metadata document with its compilation target. -/
structure Document where
  metadata : Json
  compiledPath : String
  name : Json
deriving Repr

def Document.ofText (text : String) : Except Fault Document :=
  match Json.read text with
  | .error why =>
    if why.isMalformed then .error (.request (.metadataUnreadable why)) else .error (.unreadable why)
  | .ok metadata => do
    let (compiledPath, name) ← target (.request .targetNotSingle) metadata
    return ⟨metadata, compiledPath, name⟩

/-- Match uploaded files to the sources of a document. -/
def Document.withFiles (document : Document) (files : Table String String) :
    Except ShapeFault Contract := do
  let specs ← (← document.metadata.memberOr "sources" (.object [])).members "items"
  let (sources, missing) ← placeSources files (byHash files) specs
  return ⟨document.name, document.compiledPath, document.metadata, sources, missing⟩

/-- Read a metadata document and match uploaded files to its sources. -/
def ofMetadata (text : String) (files : Table String String) : Except Fault Contract := do
  let document ← Document.ofText text
  (document.withFiles files).mapError .shape

/-- The contents of uploaded files by their paths. A value that counts as absent holds none. -/
def uploadedFiles (files : Json) : Except ShapeFault (Table String String) := do
  if !files.isTruthy then return []
  (← files.members "values").mapM fun (path, content) =>
    (sourceText content).map fun content => (path, content)

/-- Read an upload of a metadata document and files. The document is looked at first. -/
def ofUpload (text files : Json) : Except Fault Contract :=
  match text with
  | .string text => do
    let document ← Document.ofText text
    let files ← (uploadedFiles files).mapError .shape
    (document.withFiles files).mapError .shape
  | other => .error (.shape (.notText other.kindName))

end Contract

end SourceAttest
