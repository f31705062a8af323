import SourceAttest.Number.Binary64
import SourceAttest.Table
import SourceAttest.Text.Unpaired

/-!
# JSON values

Documents as data: compiler metadata, node answers, chain tables. Integers are unbounded and kept
apart from floating point numbers; the members of an object keep their order. A text that holds half
a character is kept apart from those that have an encoding. Names of members are texts with an encoding:
in a name, half a character is replaced.
-/
namespace SourceAttest

inductive Json where
  | null
  | bool (b : Bool)
  | int (n : Int)
  | float (x : Binary64)
  | string (s : String)
  | unpaired (text : UnpairedText)
  | array (items : List Json)
  | object (members : List (String × Json))
deriving Repr, Inhabited

namespace Json

/-- The text of code points. -/
def ofPoints (points : List CodePoint) : Json :=
  if unpaired : points.any CodePoint.isHalf = true then .unpaired ⟨points, unpaired⟩
  else .string (String.ofList (points.map CodePoint.shown))

/-- The text that a value is, if it is one. Half a character in it is replaced. -/
def text? : Json → Option String
  | .string s => some s
  | .unpaired text => some text.shown
  | _ => none

/-- The integer that a number or truth value equals, if any. -/
def integer? : Json → Option Int
  | .int n => some n
  | .bool b => some (if b then 1 else 0)
  | .float x => x.integer?
  | _ => none

mutual

/-- Whether two values are equal. Numbers are compared by value, and not-a-number differs from
everything. The order of the members of an object does not matter. -/
def equals : Json → Json → Bool
  | .null, .null => true
  | .string a, .string b => a = b
  | .unpaired a, .unpaired b => a = b
  | .array a, .array b => equalItems a b
  | .object a, .object b => a.length = b.length && hasMembers b a
  | .float a, .float b => !a.isNaN && !b.isNaN && (a = b || (a.isZero && b.isZero))
  | a, b =>
    match a.integer?, b.integer? with
    | some m, some n => m = n
    | _, _ => false

def equalItems : List Json → List Json → Bool
  | [], [] => true
  | a :: as, b :: bs => equals a b && equalItems as bs
  | _, _ => false

/-- Whether an object has all the given members. -/
def hasMembers (members : List (String × Json)) : List (String × Json) → Bool
  | [] => true
  | (name, value) :: rest =>
    (match Table.get? name members with
    | some found => equals value found
    | none => false) && hasMembers members rest

end

/-- Whether a value counts as present: `null`, `false`, zero and everything empty do not. -/
def isTruthy : Json → Bool
  | .null => false
  | .bool b => b
  | .int n => n ≠ 0
  | .float x => !x.isZero
  | .string s => s ≠ ""
  | .unpaired _ => true
  | .array items => !items.isEmpty
  | .object members => !members.isEmpty

/-! ### Sameness

Equal values may be written in different ways; the same values are written in one.
-/

mutual

/-- Whether two values are the same, down to the order of members and the kind of numbers. -/
def same : Json → Json → Bool
  | .null, .null => true
  | .bool a, .bool b => a = b
  | .int m, .int n => m = n
  | .float x, .float y => x = y
  | .string s, .string t => s = t
  | .unpaired s, .unpaired t => s = t
  | .array items, .array others => sameItems items others
  | .object members, .object others => sameMembers members others
  | _, _ => false

def sameItems : List Json → List Json → Bool
  | [], [] => true
  | item :: items, other :: others => same item other && sameItems items others
  | _, _ => false

def sameMembers : List (String × Json) → List (String × Json) → Bool
  | [], [] => true
  | (name, value) :: members, (otherName, otherValue) :: others =>
    name = otherName && same value otherValue && sameMembers members others
  | _, _ => false

end

mutual

theorem same_iff (a b : Json) : same a b = true ↔ a = b := by
  cases a <;> cases b
  case array.array items others => simpa [same] using sameItems_iff items others
  case object.object members others => simpa [same] using sameMembers_iff members others
  all_goals simp [same]

theorem sameItems_iff (items others : List Json) :
    sameItems items others = true ↔ items = others := by
  cases items <;> cases others
  case cons.cons item items other others =>
    simp [sameItems, same_iff item other, sameItems_iff items others]
  all_goals simp [sameItems]

theorem sameMembers_iff (members others : List (String × Json)) :
    sameMembers members others = true ↔ members = others := by
  cases members <;> cases others
  case cons.cons member members other others =>
    obtain ⟨name, value⟩ := member
    obtain ⟨otherName, otherValue⟩ := other
    simp [sameMembers, same_iff value otherValue, sameMembers_iff members others]
  all_goals simp [sameMembers]

end

instance : DecidableEq Json := fun a b => decidable_of_iff _ (same_iff a b)

/-- The characters of a text, each as a text of its own. -/
def characters (text : String) : List Json :=
  text.toList.map fun c => .string (String.singleton c)

/-- The code points of a text, each as a text of its own. -/
def points (text : UnpairedText) : List Json := text.points.map fun point => ofPoints [point]

end Json

end SourceAttest
