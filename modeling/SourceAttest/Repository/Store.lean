import SourceAttest.Repository.SafeName
import SourceAttest.Repository.Tree
import SourceAttest.Bytecode.ContentHash

/-!
# The repository store

Verified contracts are kept in a directory tree: one record directory for each quality, chain and
address, and the compilers' metadata documents under their content hashes.
-/
namespace SourceAttest

/-- How far deployed and recompiled code agree: to the last byte, except for the trailer, or not. -/
inductive MatchStatus where
  | exact
  | partly
  | none
deriving Repr, DecidableEq

def MatchStatus.text : MatchStatus → String
  | .exact => "perfect"
  | .partly => "partial"
  | .none => "none"

def MatchStatus.ofText? (text : String) : Option MatchStatus :=
  [MatchStatus.exact, .partly, .none].find? (·.text = text)

def MatchStatus.ofJson (value : Json) : Except Fault MatchStatus :=
  match value with
  | .string text => (MatchStatus.ofText? text).elim (.error (.unknownStatus value)) .ok
  | _ => .error (.unknownStatus value)

/-- The two classes of stored records. -/
inductive Quality where
  | full
  | partly
deriving Repr, DecidableEq

namespace Quality

def text : Quality → String
  | .full => "full"
  | .partly => "partial"

def ofText? (text : String) : Option Quality :=
  [Quality.full, .partly].find? (·.text = text)

def ofJson (value : Json) : Except Fault Quality :=
  match value with
  | .string text => (ofText? text).elim (.error (.unknownQuality value)) .ok
  | _ => .error (.unknownQuality value)

/-- The quality of a record with the given status; there is none without a match. -/
def ofStatus? : MatchStatus → Option Quality
  | .exact => some .full
  | .partly => some .partly
  | .none => Option.none

def directory (quality : Quality) : String := quality.text ++ "_match"

end Quality

/-- Where a file of a record belongs. -/
structure StorageTarget where
  quality : Quality
  chain : String
  address : String
  fileName : String
  isSource : Bool
deriving Repr, DecidableEq

/-- What is written to a file: a JSON value, which must be a text, or bytes. -/
inductive Artifact where
  | value (v : Json)
  | bytes (b : List UInt8)

namespace Artifact

/-- The fault of an artifact that is neither a text nor bytes. -/
def refusal? : Artifact → Option Fault
  | .value (.string _) | .value (.unpaired _) | .bytes _ => none
  | .value other => some (.shape (.notText other.kindName))

/-- The bytes of an artifact. A text has them only if it has an encoding. -/
def bytes? : Artifact → Except Fault (List UInt8)
  | .value (.string text) => .ok text.toUTF8.toList
  | .value (.unpaired text) => .error (.shape (.notEncodable text))
  | .value other => .error (.shape (.notText other.kindName))
  | .bytes b => .ok b

end Artifact

/-- A repository root, and the place at which relative roots start. -/
structure Store where
  root : Path
  here : Place
deriving Repr, DecidableEq

namespace Store

/-- The outcome of a step on a tree, which is kept also when the step fails. -/
abbrev Step (α : Type) := Tree → Except Fault α × Tree

def recordDirectory (root : Path) (quality : Quality) (chain address : String) : Path :=
  (((root.join "contracts").join quality.directory).join chain).join address

/-- The path of a file of a record. -/
def targetPath (store : Store) (target : StorageTarget) : Path :=
  let directory := recordDirectory store.root target.quality target.chain target.address
  (if target.isSource then directory.join "sources" else directory).join target.fileName

/-- The path of a document by its content hash, from the root of the repository. -/
def documentPath (store : Store) (place : String) : Path :=
  store.root.join (String.ofList (place.toList.dropWhile (· = '/')))

/-- Write a file and make the directories above it. -/
def write (store : Store) (path : Path) (artifact : Artifact) : Step Path := fun tree =>
  if path.parent.hasNul then (.error .nullInPath, tree)
  else
    match tree.ensureDirectories store.here path.parent with
    | (.error why, made) => (.error (.notWritten path.text why), made)
    | (.ok (), made) =>
      match artifact.refusal? with
      | some fault => (.error fault, made)
      | none =>
        -- The directories are made even if the file name holds a NUL.
        if path.hasNul then (.error .nullInPath, made)
        else
          match made.openFile store.here path with
          | .error fault => (.error (.notWritten path.text ⟨fault, path.quoted⟩), made)
          | .ok (place, opened) =>
            -- A text is encoded only now, so one that has no encoding leaves an empty file.
            match artifact.bytes? with
            | .error fault => (.error fault, opened)
            | .ok content => (.ok path, opened.fillFile place content)

def save (store : Store) (target : StorageTarget) (artifact : Artifact) : Step Path :=
  store.write (store.targetPath target) artifact

def saveAt (store : Store) (place : String) (artifact : Artifact) : Step Path :=
  store.write (store.documentPath place) artifact

/-- Remove the partial record of a contract, if there is one. -/
def deletePartial (store : Store) (chain address : String) : Step Unit := fun tree =>
  let path := recordDirectory store.root .partly chain address
  if path.hasNul then (.error .nullInPath, tree)
  else
    match tree.removeDirectory store.here path with
    | (.ok (), removed) => (.ok (), removed)
    | (.error why, left) =>
      -- Nothing to remove is no fault, even if it only became so on the way.
      if why.cause = .notFound then (.ok (), left)
      else (.error (.notDeleted path.text why), left)

end Store

def pathOfPlace (place : Place) : Path := ⟨.top, place⟩

/-- The repository root that the environment names, or the directory `repository`. A relative name
starts at the working directory. -/
def defaultRepository (environment : Table String String) (here : Place) : Path :=
  match environment.get? "REPOSITORY_PATH" with
  | some text =>
    if text = "" then (pathOfPlace here).join "repository" else (pathOfPlace here).join text
  | none => (pathOfPlace here).join "repository"

end SourceAttest
