import SourceAttest.Cbor.Item

/-!
# Reading CBOR

Reading takes one item from the front of a byte string and leaves the rest. Lengths may be left
open, to be closed by a break byte. Big integers are plain integers here, and the tag that only
marks a document as CBOR disappears.

Other tags are kept with their contents as they are. A decoder that knows dates, fractions, addresses
and the like checks and converts what stands under their tags; no compiler writes such tags into
auxiliary data, and none of this is modelled.
-/
namespace SourceAttest.Cbor

-- Powers of natural numbers are the built-in ones, whatever else is imported.
attribute [local instance (2000)] instPowNat

/-- A reading takes bytes from the front and leaves the others. -/
abbrev Reading (α : Type) := Option (α × List UInt8)

/-- This many items may be nested in each other, the limit that decoders have by default. -/
def maxDepth : Nat := 400

/-- The byte that closes an item of open length. -/
def breakByte : UInt8 := 0xFF

def take (n : Nat) (bytes : List UInt8) : Reading (List UInt8) :=
  let taken := bytes.take n
  if taken.length = n then some (taken, bytes.drop n) else none

def bigEndian (bytes : List UInt8) : Nat :=
  bytes.foldl (fun value byte => value * 256 + byte.toNat) 0

/-- The argument of an item: small ones stand in the first byte, others in the next one, two, four
or eight. -/
def argument (info : Nat) (bytes : List UInt8) : Reading Nat :=
  if info < 24 then some (info, bytes)
  else if info < 28 then (take (2 ^ (info - 24)) bytes).map fun (taken, rest) => (bigEndian taken, rest)
  else none

def utf8? (bytes : List UInt8) : Option String := String.fromUTF8? ⟨bytes.toArray⟩

/-- The chunks of a byte or text string of open length, each of a fixed length and of the same
major type. -/
def chunks (major : Nat) : Nat → List UInt8 → Reading (List (List UInt8))
  | 0, _ => none
  | _ + 1, [] => none
  | fuel + 1, first :: bytes =>
    if first = breakByte then some ([], bytes)
    else if first.toNat / 32 ≠ major then none
    else
      match argument (first.toNat % 32) bytes with
      | none => none
      | some (length, rest) =>
        match take length rest with
        | none => none
        | some (chunk, rest) => (chunks major fuel rest).map fun (more, rest) => (chunk :: more, rest)

/-- A byte string of fixed or open length. -/
def byteString (info : Nat) (bytes : List UInt8) : Reading (List UInt8) :=
  if info = 31 then (chunks 2 (bytes.length + 1) bytes).map fun (parts, rest) => (parts.flatten, rest)
  else (argument info bytes).bind fun (length, rest) => take length rest

/-- A text of fixed or open length. Each chunk is valid by itself. -/
def textString (info : Nat) (bytes : List UInt8) : Reading String :=
  if info = 31 then
    (chunks 3 (bytes.length + 1) bytes).bind fun (parts, rest) =>
      (parts.mapM utf8?).map fun texts => (String.join texts, rest)
  else
    (argument info bytes).bind fun (length, rest) =>
      (take length rest).bind fun (taken, rest) => (utf8? taken).map fun text => (text, rest)

/-- Truth values, null, simple values and floating point numbers. -/
def special (info : Nat) (bytes : List UInt8) : Reading Item :=
  if info < 20 then some (.simple info, bytes)
  else if info = 20 then some (.bool false, bytes)
  else if info = 21 then some (.bool true, bytes)
  else if info = 22 then some (.null, bytes)
  else if info = 23 then some (.simple 23, bytes)
  else
    (argument info bytes).bind fun (word, rest) =>
      if info = 24 then if word < 32 then none else some (.simple word, rest)
      else if info = 25 then some (.float (.ofNarrow 5 10 word), rest)
      else if info = 26 then some (.float (.ofNarrow 8 23 word), rest)
      else some (.float ⟨UInt64.ofNat word⟩, rest)

/-- The meaning of a tag: 2 and 3 make big integers of byte strings, 55799 means nothing. -/
def ofTag? (tag : Nat) (content : Item) : Option Item :=
  if tag = 2 then
    match content with
    | .bytes b => some (.int (bigEndian b))
    | _ => none
  else if tag = 3 then
    match content with
    | .bytes b => some (.int (-1 - (bigEndian b : Int)))
    | _ => none
  else if tag = 55799 then some content
  else some (.tagged tag content)

mutual

/-- Read one item inside at most `depth` more containers. -/
def readItem : Nat → Nat → List UInt8 → Reading Item
  | 0, _, _ => none
  | _ + 1, _, [] => none
  | fuel + 1, depth, first :: bytes =>
    let info := first.toNat % 32
    match first.toNat / 32 with
    | 0 => (argument info bytes).map fun (n, rest) => (.int n, rest)
    | 1 => (argument info bytes).map fun (n, rest) => (.int (-1 - (n : Int)), rest)
    | 2 => (byteString info bytes).map fun (b, rest) => (.bytes b, rest)
    | 3 => (textString info bytes).map fun (s, rest) => (.text s, rest)
    | 4 =>
      match depth with
      | 0 => none
      | depth + 1 =>
        if info = 31 then (readOpenItems fuel depth bytes).map fun (items, rest) => (.array items, rest)
        else
          match argument info bytes with
          | none => none
          | some (count, rest) =>
            (readItems fuel depth count rest).map fun (items, rest) => (.array items, rest)
    | 5 =>
      match depth with
      | 0 => none
      | depth + 1 =>
        if info = 31 then (readOpenEntries fuel depth [] bytes).map fun (entries, rest) => (.map entries, rest)
        else
          match argument info bytes with
          | none => none
          | some (count, rest) =>
            (readEntries fuel depth count [] rest).map fun (entries, rest) => (.map entries, rest)
    | 6 =>
      match depth with
      | 0 => none
      | depth + 1 =>
        match argument info bytes with
        | none => none
        | some (tag, rest) =>
          match readItem fuel depth rest with
          | none => none
          | some (content, rest) => (ofTag? tag content).map fun item => (item, rest)
    | _ => special info bytes

def readItems : Nat → Nat → Nat → List UInt8 → Reading (List Item)
  | 0, _, _, _ => none
  | _ + 1, _, 0, bytes => some ([], bytes)
  | fuel + 1, depth, count + 1, bytes =>
    match readItem fuel depth bytes with
    | none => none
    | some (item, rest) =>
      (readItems fuel depth count rest).map fun (items, rest) => (item :: items, rest)

def readOpenItems : Nat → Nat → List UInt8 → Reading (List Item)
  | 0, _, _ => none
  | _ + 1, _, [] => none
  | fuel + 1, depth, first :: bytes =>
    if first = breakByte then some ([], bytes)
    else
      match readItem fuel depth (first :: bytes) with
      | none => none
      | some (item, rest) =>
        (readOpenItems fuel depth rest).map fun (items, rest) => (item :: items, rest)

/-- Read `count` entries of a map, binding them in turn to those read before. -/
def readEntries : Nat → Nat → Nat → List (Item × Item) → List UInt8 → Reading (List (Item × Item))
  | 0, _, _, _, _ => none
  | _ + 1, _, 0, before, bytes => some (before, bytes)
  | fuel + 1, depth, count + 1, before, bytes =>
    match readItem fuel depth bytes with
    | none => none
    | some (key, rest) =>
      match readItem fuel depth rest with
      | none => none
      | some (value, rest) => readEntries fuel depth count (putEntry key value before) rest

/-- Read entries of a map up to the break. -/
def readOpenEntries : Nat → Nat → List (Item × Item) → List UInt8 → Reading (List (Item × Item))
  | 0, _, _, _ => none
  | _ + 1, _, _, [] => none
  | fuel + 1, depth, before, first :: bytes =>
    if first = breakByte then some (before, bytes)
    else
      match readItem fuel depth (first :: bytes) with
      | none => none
      | some (key, rest) =>
        match readItem fuel depth rest with
        | none => none
        | some (value, rest) => readOpenEntries fuel depth (putEntry key value before) rest

end

/-- Every nested reading consumes a byte after at most one step, so this is never used up. -/
def enoughFuel (bytes : List UInt8) : Nat := 2 * bytes.length + 2

/-- The first item of a byte string; what follows it is ignored. -/
def decode? (bytes : List UInt8) : Option Item :=
  (readItem (enoughFuel bytes) maxDepth bytes).map Prod.fst

/-- The entries of the map that a byte string starts with. A map under a tag is decoded as an immutable
one, which is not counted, not even under the tag that disappears. -/
def decodeMap? (bytes : List UInt8) : Option (List (Item × Item)) :=
  if bytes.head?.any (fun first => first.toNat / 32 = 5) then
    match decode? bytes with
    | some (.map entries) => some entries
    | _ => none
  else none

end SourceAttest.Cbor
