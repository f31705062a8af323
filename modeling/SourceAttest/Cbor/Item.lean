import SourceAttest.Number.Binary64

/-!
# CBOR items

The data items of the compact binary notation in which compilers describe their output at the end
of the code. The entries of a map keep their order; a repeated key keeps its first place and its
last value.
-/
namespace SourceAttest.Cbor

inductive Item where
  | int (n : Int)
  | bytes (b : List UInt8)
  | text (s : String)
  | array (items : List Item)
  | map (entries : List (Item × Item))
  | tagged (tag : Nat) (content : Item)
  | bool (b : Bool)
  | null
  | float (x : Binary64)
  | simple (n : Nat)
deriving Repr, Inhabited

namespace Item

/-- The integer that a number or truth value equals, if any. -/
def integer? : Item → Option Int
  | .int n => some n
  | .bool b => some (if b then 1 else 0)
  | .float x => x.integer?
  | _ => none

/-- Whether a simple value equals an integer or truth value. Only the undefined value, 23, equals
none. -/
def equalsSimple (simple : Nat) : Item → Bool
  | .int n => simple ≠ 23 && n = simple
  | .bool b => simple = if b then 1 else 0
  | _ => false

mutual

/-- Whether two items are the same key of a map. Numbers are compared by value, and not-a-number
differs from everything. The order of the entries of a map does not matter. -/
def sameKey : Item → Item → Bool
  | .bytes a, .bytes b => a = b
  | .text a, .text b => a = b
  | .null, .null => true
  | .simple a, .simple b => a = b
  | .simple a, b => equalsSimple a b
  | a, .simple b => equalsSimple b a
  | .array a, .array b => sameKeys a b
  | .map a, .map b => a.length = b.length && hasEntries b a
  | .tagged s a, .tagged t b => s = t && sameKey a b
  | .float a, .float b => !a.isNaN && !b.isNaN && (a = b || (a.isZero && b.isZero))
  | a, b =>
    match a.integer?, b.integer? with
    | some m, some n => m = n
    | _, _ => false

def sameKeys : List Item → List Item → Bool
  | [], [] => true
  | a :: as, b :: bs => sameKey a b && sameKeys as bs
  | _, _ => false

/-- Whether a map has all the given entries. -/
def hasEntries (map : List (Item × Item)) : List (Item × Item) → Bool
  | [] => true
  | (key, value) :: rest =>
    (match map.find? (fun entry => sameKey key entry.1) with
    | some entry => sameKey value entry.2
    | none => false) && hasEntries map rest

end

end Item

/-- Bind a key of a map, in its old place if it has one and at the end otherwise. -/
def putEntry (key value : Item) : List (Item × Item) → List (Item × Item)
  | [] => [(key, value)]
  | (k, v) :: rest => if k.sameKey key then (k, value) :: rest else (k, v) :: putEntry key value rest

def textEntry? (key : String) : List (Item × Item) → Option Item
  | [] => none
  | (.text k, v) :: rest => if k = key then some v else textEntry? key rest
  | _ :: rest => textEntry? key rest

end SourceAttest.Cbor
