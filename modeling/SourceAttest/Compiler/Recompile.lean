import SourceAttest.Action
import SourceAttest.Compiler.Input
import SourceAttest.Json.Writer

/-!
# Recompiling

The compiler is run on the input of a contract. Of its output, the codes and the metadata document
of the compilation target are kept.
-/
namespace SourceAttest

/-- What a compiler makes of the compilation target: the two codes and the metadata document, kept
as they come. -/
structure CompiledArtifact where
  runtime : Json
  creation : Json
  metadata : Json
deriving Repr

namespace Compiler

def isError (entry : Json) : Except ShapeFault Bool := do
  return (← entry.memberOr "severity" .null).equals (.string "error")

def reportMessage (entry : Json) : Except ShapeFault String := do
  let formatted ← entry.memberOr "formattedMessage" .null
  let message ← if formatted.isTruthy then pure formatted else entry.memberOr "message" (.string "")
  match message.text? with
  | some text => return text
  | none => .error (.notText message.kindName)

def outputErrors (output : Json) : Except ShapeFault (List Json) := do
  let report ← (← output.memberOr "errors" (.array [])).items
  report.filterM isError

/-- The target in an output. -/
def targetOutput (file : String) (name : Json) (output : Json) : Except Fault Json :=
  match (do (← (← output.member "contracts").member file).select name : Except ShapeFault Json) with
  | .ok found => .ok found
  | .error (.noMember _) => .error (.compilation (.targetNotCompiled file name.plain))
  | .error why => .error (.shape why)

def codeOutput (kind : String) (target : Json) : Except ShapeFault String := do
  let code ← (← (← target.member "evm").member kind).member "object"
  return "0x" ++ Text.lower (← code.text "lower")

def artifactOf (file : String) (name : Json) (output : Json) : Except Fault CompiledArtifact := do
  let shaped {α : Type} (value : Except ShapeFault α) : Except Fault α := value.mapError .shape
  let errors ← shaped (outputErrors output)
  if !errors.isEmpty then .error (.compilation (.reported (← shaped (errors.mapM reportMessage))))
  else
    let target ← targetOutput file name output
    let runtime ← shaped (codeOutput "deployedBytecode" target)
    let creation ← shaped (codeOutput "bytecode" target)
    return ⟨.string runtime, .string creation, ← shaped (target.member "metadata")⟩

/-- The document that a compiler run writes. -/
def outputOf (path : String) : CompilerOutcome → Except Fault Json
  | .notFound => .error (.compilation (.compilerNotFound path))
  | .failed output => .error (.compilation (.compilerFailed output))
  | .finished output =>
    match Json.read output with
    | .ok document => .ok document
    | .error why =>
      if why.isMalformed then .error (.compilation (.outputUnreadable why))
      else .error (.unreadable why)

/-- The compiler that is given, else that of the environment, else `solc`. -/
def choose (given : Option String) (environment : Table String String) : String :=
  given.getD ((environment.get? "SOLC_PATH").getD "solc")

/-- Repeat the compilation that a metadata document describes. -/
def recompile (path : Option String) (logger : Logger) (metadata sources : Json) :
    Action CompiledArtifact := do
  let path := choose path (← Action.ask World.environment)
  let (file, name) ← Action.ofExcept (Contract.target (.compilation .targetNotSingle) metadata)
  let version ← Action.ofShape do
    (← metadata.memberOr "compiler" (.object [])).memberOr "version" .null
  logger.info "Recompiling" [("loc", .string "[RECOMPILE]"),
    ("target", .string (file ++ ":" ++ name.plain)), ("version", version)]
  let input ← Action.ofExcept (standardInput metadata sources)
  let outcome ← Action.compile ⟨path, input.write⟩
  let output ← Action.ofExcept (outputOf path outcome)
  Action.ofExcept (artifactOf file name output)

end Compiler

end SourceAttest
