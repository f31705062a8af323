import SourceAttest.Fault.Shape
import SourceAttest.Json.Reader

/-!
# Faults

Everything that can go wrong, by cause. A fault belongs to a kind, by which callers tell faults
apart, and has a message for a person.
-/
namespace SourceAttest

-- Powers of natural numbers are the built-in ones, whatever else is imported.
attribute [local instance (2000)] instPowNat

inductive FaultKind where
  | verification
  | validation
  | chainNotFound
  | compilation
  | noMatch
  | strategy
  | creationDataNotFound
  | rpc
  | persistence
  | value
  | type
  | attribute
  | key
  | index
  | runtime
  | lookup
  | assertion
  | frozen
  | depth
  | encoding
  /-- A kind that only a supplied function uses, by its name. -/
  | other (name : String)
deriving Repr, DecidableEq

inductive RequestFault where
  | metadataUnreadable (why : Json.ReadError)
  | targetNotSingle
  | addressMissing
  | addressInvalid (address : Json)
  | chainMissing
deriving Repr

inductive CompilationFault where
  | sourcesNotFetched (paths : List String)
  | sourceMissing (path : String)
  | sourceChanged (path : String)
  | targetNotSingle
  | compilerNotFound (path : String)
  | compilerFailed (output : String)
  | outputUnreadable (why : Json.ReadError)
  | reported (messages : List String)
  | targetNotCompiled (file name : String)
deriving Repr

inductive RpcFault where
  | status (method : Json) (code : Int)
  | network (method : Json) (reason : String)
  | unreadable (method : Json) (why : Json.ReadError)
  | reported (method : Json) (error : Json)
  | noResult (method : Json)
  | blockNotFound (block : Json)
  | transactionNotFound (hash : Json)
deriving Repr

/-- Why one way of finding creation data failed. -/
inductive StrategyFault where
  | node (why : RpcFault)
  | pageNotFetched (url reason : String)
  | patternInvalid (chain : Json) (reason : String)
  | notListed (url : String)
  | patternWithoutGroup (chain : Json)
  | noInput (transaction : Json)
  | queryFailed (reason : String)
  | indexUnreadable (why : Json.ReadError)
  | indexUnexpected (answer : Json)
  | indexReported (errors : Json)
  | notIndexed (address : Json)
  | noCode (address : Json) (block : Int)
  | blockWithoutTransactions (block : Int)
  | creationWithoutInput (transaction : Json)
  | notInBlock (address : Json) (block : Int)
deriving Repr

/-- What the operating system objects to. -/
inductive SystemFault where
  | notFound
  | exists
  | notDirectory
  | isDirectory
  | nameTooLong
deriving Repr, DecidableEq

/-- A file operation that the operating system refused, on a path written as in the message. -/
structure FileFault where
  cause : SystemFault
  path : String
deriving Repr, DecidableEq

inductive Fault where
  | request (why : RequestFault)
  | chainNotFound (id : Json)
  | compilation (why : CompilationFault)
  | noMatch (message : String)
  | strategy (why : StrategyFault)
  | creationDataNotFound (address chain : Json)
  | creationChainNotFound (id : Json)
  | rpc (why : RpcFault)
  | notWritten (path : String) (why : FileFault)
  | notDeleted (path : String) (why : FileFault)
  /-- A fault while verifying the named contract. -/
  | ofContract (name : Json) (why : Fault)
  | unknownQuality (value : Json)
  | unknownStatus (value : Json)
  | unknownMode (mode : Json)
  | unknownLevel (level : Json)
  | notHexAddress (text : String)
  | wrongAddressFormat (value : Json) (normalized : String)
  | unreadable (why : Json.ReadError)
  | notBase16 (text : String)
  /-- A number has too many digits to be written in a message. -/
  | overlongNumber
  | nullInPath
  | shape (why : ShapeFault)
  /-- A fault that a supplied function reports. -/
  | reported (kind : FaultKind) (message : String)
deriving Repr

def RequestFault.message : RequestFault → String
  | .metadataUnreadable why => "Metadata is not valid JSON: " ++ why.message
  | .targetNotSingle => "Metadata must declare exactly one compilation target"
  | .addressMissing => "Missing address for submitted sources/metadata"
  | .addressInvalid address => "Invalid address: " ++ address.plain
  | .chainMissing => "Missing chain name for submitted sources/metadata"

def CompilationFault.message : CompilationFault → String
  | .sourcesNotFetched paths => "Could not fetch missing sources: " ++ ", ".intercalate paths
  | .sourceMissing path => "Missing source: " ++ path
  | .sourceChanged path => "Source hash mismatch for " ++ path
  | .targetNotSingle => "Metadata must declare exactly one compilation target"
  | .compilerNotFound path => "Compiler not found: " ++ path
  | .compilerFailed output => "Compiler failed: " ++ output
  | .outputUnreadable why => "Compiler produced invalid JSON: " ++ why.message
  | .reported messages => "; ".intercalate messages
  | .targetNotCompiled file name => "Compiler output has no " ++ file ++ ":" ++ name

def RpcFault.message : RpcFault → String
  | .status method code => "RPC request " ++ method.plain ++ " failed with status " ++ toString code
  | .network method reason => "Network error during RPC call " ++ method.plain ++ ": " ++ reason
  | .unreadable method why =>
    "Invalid JSON in RPC response to " ++ method.plain ++ ": " ++ why.message
  | .reported method error => "RPC error in " ++ method.plain ++ ": " ++ error.plain
  | .noResult method => "RPC response to " ++ method.plain ++ " has no result"
  | .blockNotFound block => "Block " ++ block.plain ++ " not found"
  | .transactionNotFound hash => "Transaction " ++ hash.plain ++ " not found"

def StrategyFault.message : StrategyFault → String
  | .node why => why.message
  | .pageNotFetched url reason => "Failed to fetch " ++ url ++ ": " ++ reason
  | .patternInvalid chain reason => "Invalid tx_regex for chain " ++ chain.plain ++ ": " ++ reason
  | .notListed url => "Creation transaction not found on " ++ url
  | .patternWithoutGroup chain => "tx_regex for chain " ++ chain.plain ++ " has no capture group"
  | .noInput transaction => "Transaction " ++ transaction.plain ++ " has no input data"
  | .queryFailed reason => "GraphQL query failed: " ++ reason
  | .indexUnreadable why => "Invalid JSON from GraphQL endpoint: " ++ why.message
  | .indexUnexpected answer => "Unexpected GraphQL response: " ++ answer.shown
  | .indexReported errors => "GraphQL errors: " ++ errors.plain
  | .notIndexed address => "No creation transaction indexed for " ++ address.plain
  | .noCode address block => "No code at " ++ address.plain ++ " as of block " ++ toString block
  | .blockWithoutTransactions block =>
    "Block " ++ toString block ++ " was returned without transaction objects"
  | .creationWithoutInput transaction =>
    "Creation transaction " ++ transaction.plain ++ " has no input data"
  | .notInBlock address block =>
    "No creation transaction for " ++ address.plain ++ " in block " ++ toString block

/-- The number and the name of an operating system fault. -/
def SystemFault.message : SystemFault → String
  | .notFound => "[Errno 2] No such file or directory"
  | .exists => "[Errno 17] File exists"
  | .notDirectory => "[Errno 20] Not a directory"
  | .isDirectory => "[Errno 21] Is a directory"
  | .nameTooLong => "[Errno 36] File name too long"

def FileFault.message (why : FileFault) : String := why.cause.message ++ ": " ++ why.path

def ShapeFault.kind : ShapeFault → FaultKind
  | .noOperation .. => .attribute
  | .noMember .. => .key
  | .noItem .. => .index
  | .notEncodable .. => .encoding
  | .frozenField .. => .frozen
  | _ => .type

namespace Fault

/-- The kind of a fault. A fault of a contract is of the same kind as its cause. -/
def kind : Fault → FaultKind
  | .request .. => .validation
  | .chainNotFound .. => .chainNotFound
  | .compilation .. => .compilation
  | .noMatch .. => .noMatch
  | .strategy .. => .strategy
  | .creationDataNotFound .. => .creationDataNotFound
  | .creationChainNotFound .. => .creationDataNotFound
  | .rpc .. => .rpc
  | .notWritten .. => .persistence
  | .notDeleted .. => .persistence
  | .ofContract _ why => why.kind
  | .unknownQuality .. => .value
  | .unknownStatus .. => .value
  | .unknownMode .. => .value
  | .unknownLevel .. => .value
  | .notHexAddress .. => .value
  | .wrongAddressFormat .. => .value
  | .unreadable (.tooDeep ..) => .depth
  | .unreadable .. => .value
  | .notBase16 .. => .value
  | .overlongNumber => .value
  | .nullInPath => .value
  | .shape why => why.kind
  | .reported kind _ => kind

def chainNotFoundMessage (id : Json) : String := "Chain '" ++ id.plain ++ "' is not supported"

/-- The start of a long text. -/
def abridged (text : String) : String := String.ofList (text.toList.take 200)

def message : Fault → String
  | .request why => why.message
  | .chainNotFound id => chainNotFoundMessage id
  | .compilation why => why.message
  | .noMatch message => message
  | .strategy why => why.message
  | .creationDataNotFound address chain =>
    "Cannot fetch creation data for " ++ address.plain ++ " on chain " ++ chain.plain
  | .creationChainNotFound id => chainNotFoundMessage id
  | .rpc why => why.message
  | .notWritten path why => "Failed to write " ++ path ++ ": " ++ why.message
  | .notDeleted path why => "Failed to delete " ++ path ++ ": " ++ why.message
  | .ofContract name why => "Contract name: " ++ name.plain ++ ". " ++ why.message
  | .unknownQuality value => value.shown ++ " is not a valid MatchQuality"
  | .unknownStatus value => value.shown ++ " is not a valid MatchStatus"
  | .unknownMode mode => "Unknown chain registry mode: " ++ mode.plain
  | .unknownLevel level => "Unknown level: " ++ level.shown
  | .notHexAddress text => "when sending a str, it must be a hex string. Got: " ++ Text.quoted text
  | .wrongAddressFormat value normalized =>
    "Unknown format " ++ value.shown ++ ", attempted to normalize to " ++ Text.quoted normalized
  | .unreadable why => why.message
  | .notBase16 text => "invalid literal for int() with base 16: " ++ abridged (Text.quoted text)
  | .overlongNumber =>
    "Exceeds the limit (4300 digits) for integer string conversion; " ++
      "use sys.set_int_max_str_digits() to increase the limit"
  | .nullInPath => "embedded null byte"
  | .shape why => why.message
  | .reported kind message =>
    if kind = .key then Text.quoted message else message

/-- Whether a number has more digits than a message takes. -/
def isOverlong (n : Int) : Bool := 10 ^ Json.maxIntegerDigits ≤ n.natAbs

/-- A fault whose message names a block, unless the number of the block is overlong. -/
def namingBlock (fault : Fault) (block : Int) : Fault :=
  if isOverlong block then .overlongNumber else fault

end Fault

end SourceAttest
