import SourceAttest.Base58
import SourceAttest.Bytecode.Trailer

/-!
# Content hashes

The auxiliary data of a code may hold the hash under which the compiler's metadata document is
published. The hash is also the place of the document in the repository.
-/
namespace SourceAttest

inductive ContentHash where
  | bzzr0 (hash : List UInt8)
  | bzzr1 (hash : List UInt8)
  | ipfs (multihash : List UInt8)
deriving Repr, DecidableEq

namespace ContentHash

/-- A non-empty byte string among the entries. -/
def bytesEntry? (key : String) (entries : List (Cbor.Item × Cbor.Item)) : Option (List UInt8) :=
  match Cbor.textEntry? key entries with
  | some (.bytes hash) => if hash.isEmpty then none else some hash
  | _ => none

/-- A multihash names its function in the first byte and the length of its digest in the second. -/
def isMultihash : List UInt8 → Bool
  | _ :: length :: digest => !digest.isEmpty && length.toNat = digest.length
  | _ => false

/-- The hash that a map publishes: the older kinds win over the newer one. -/
def ofEntries? (entries : List (Cbor.Item × Cbor.Item)) : Option ContentHash :=
  match bytesEntry? "bzzr0" entries, bytesEntry? "bzzr1" entries, bytesEntry? "ipfs" entries with
  | some hash, _, _ => some (.bzzr0 hash)
  | none, some hash, _ => some (.bzzr1 hash)
  | none, none, some hash => if isMultihash hash then some (.ipfs hash) else none
  | none, none, none => none

/-- The hash that a code publishes in its trailer. -/
def ofCode? (code : String) : Option ContentHash :=
  (Bytecode.auxdata? code).bind ofEntries?

/-- The hash that a value publishes, which should be a code. -/
def ofValue? (value : Json) : Except ShapeFault (Option ContentHash) :=
  (Bytecode.auxdataOf value).map fun entries => entries.bind ofEntries?

/-- The place of the document, from the root of the repository. -/
def path : ContentHash → String
  | .bzzr0 hash => "/swarm/bzzr0/" ++ String.ofList (Base16.encode hash)
  | .bzzr1 hash => "/swarm/bzzr1/" ++ String.ofList (Base16.encode hash)
  | .ipfs multihash => "/ipfs/" ++ Base58.encode multihash

end ContentHash

end SourceAttest
