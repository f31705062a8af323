import SourceAttest.Contract.Basic

/-!
# Compiler input

A metadata document and the sources together determine the input that makes the compiler repeat the
compilation. Sources must be at hand with the recorded hashes.
-/
namespace SourceAttest.Compiler

/-- What the compiler is asked to return. -/
def outputSelection : Json :=
  .object [("*", .object [("*", .array [
    .string "evm.bytecode.object", .string "evm.deployedBytecode.object", .string "metadata"])])]

/-- Split at the last colon: what stands before it, if there is one, and what follows. -/
def splitLastColon (name : List Char) : List Char × List Char :=
  let last := (name.reverse.takeWhile (· ≠ ':')).reverse
  (name.take (name.length - last.length - 1), last)

/-- Libraries by file and name, from names that hold both with a colon between. -/
def regroupLibraries (libraries : List (String × Json)) : Table String (Table String Json) :=
  libraries.foldl
    (fun grouped (name, address) =>
      let (file, library) := splitLastColon name.toList
      let file := String.ofList file
      grouped.put file (((grouped.get? file).getD []).put (String.ofList library) address))
    []

def groupedObject (grouped : Table String (Table String Json)) : Json :=
  .object (grouped.map fun (file, libraries) => (file, .object libraries))

/-- Check a source against its hash, which may be missing. -/
def checkSource (path : String) (spec content : Json) : Except Fault Unit :=
  match spec.memberOr "keccak256" .null with
  | .error why => .error (.shape why)
  | .ok expected =>
    if !expected.isTruthy then .ok ()
    else
      match sourceText content, expected.text "lower" with
      | .error why, _ => .error (.shape why)
      | .ok _, .error why => .error (.shape why)
      | .ok text, .ok hash =>
        if sourceHash text = Text.lower hash then .ok ()
        else .error (.compilation (.sourceChanged path))

def findSource (sources : Json) (path : String) : Except Fault Json :=
  match sources.mentions path with
  | .error why => .error (.shape why)
  | .ok false => .error (.compilation (.sourceMissing path))
  | .ok true => (sources.member path).mapError .shape

def inputSources (sources : Json) : List (String × Json) → Except Fault (List (String × Json))
  | [] => .ok []
  | (path, spec) :: rest => do
    let content ← findSource sources path
    checkSource path spec content
    return (path, .object [("content", content)]) :: (← inputSources sources rest)

/-- The settings of a document without its target, with regrouped libraries and the selection of
output. -/
def inputSettings (settings : List (String × Json)) : Except ShapeFault (List (String × Json)) := do
  let kept := settings.filter fun entry => entry.1 ≠ "compilationTarget"
  let regrouped ←
    match Table.get? "libraries" kept with
    | none => pure kept
    | some libraries => do
      let entries ← libraries.members "items"
      pure (Table.put "libraries" (groupedObject (regroupLibraries entries)) kept)
  return Table.put "outputSelection" outputSelection regrouped

/-- The compiler input for a document and its sources, an object of contents by path. -/
def standardInput (metadata sources : Json) : Except Fault Json := do
  let shaped {α : Type} (value : Except ShapeFault α) : Except Fault α := value.mapError .shape
  let specs ← shaped (do (← metadata.memberOr "sources" (.object [])).members "items")
  let input ← inputSources sources specs
  let settings ← shaped (do
    inputSettings (← (← metadata.memberOr "settings" (.object [])).members "items"))
  let language ← shaped (metadata.memberOr "language" (.string "Solidity"))
  return .object [("language", language), ("sources", .object input), ("settings", .object settings)]

end SourceAttest.Compiler
