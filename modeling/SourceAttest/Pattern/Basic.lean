import SourceAttest.Pattern.CaseForms
import SourceAttest.Table
import SourceAttest.Text.Blank
import SourceAttest.Text.DecimalDigit
import SourceAttest.Text.WordChar

/-!
# Search patterns

Explorer pages are searched with patterns: characters and classes, alternatives, groups, repeats
and anchors. A search tries the places of a text from left to right, and at each place the ways to
match in order of preference: the left alternative first, greedy repeats as long as possible, lazy
ones as short as possible.
-/
namespace SourceAttest

inductive CharKind where
  | digit
  | space
  | word
deriving Repr, DecidableEq

def CharKind.has : CharKind → Char → Bool
  | .digit, c => (Text.decimalValue? c).isSome
  | .space, c => Text.isBlank c
  | .word, c => Text.isWordChar c

inductive ClassPart where
  | single (c : Char)
  | range (first last : Char)
  | kind (which : CharKind) (negated : Bool)
deriving Repr, DecidableEq

/-- A class of characters, perhaps by what it leaves out, perhaps without regard to letter case. -/
structure CharClass where
  parts : List ClassPart
  negated : Bool
  ignoresCase : Bool
deriving Repr, DecidableEq

/-- Whether a character lies in the first plane, whose code points have at most four digits. -/
def inFirstPlane (c : Char) : Bool := c.toNat < 0x10000

/-- Whether a part of a class takes in a character, which is given by its folded form and by all
forms that count as it. `alone` says that the class has no other parts: a capital letter beyond the
first plane has its other forms only then. -/
def ClassPart.has (folded : Char) (forms : List Char) (alone : Bool) : ClassPart → Bool
  | .single c => forms.contains c && (alone || inFirstPlane c || folded = c)
  | .range first last => forms.any fun form => first ≤ form && form ≤ last
  | .kind which negated => which.has folded != negated

/-- Whether a class has only one part, however often it is written. -/
def CharClass.isLone (cls : CharClass) : Bool :=
  cls.parts.all fun part => cls.parts.head? = some part

def CharClass.has (cls : CharClass) (c : Char) : Bool :=
  (if cls.ignoresCase then
    let forms := Pattern.caseForms c
    cls.parts.any (·.has (Pattern.foldCase c) forms cls.isLone)
  else cls.parts.any (·.has c [c] true)) != cls.negated

inductive Pattern where
  | empty
  | char (cls : CharClass)
  | start (everyLine : Bool)
  | stop (everyLine : Bool)
  | veryEnd
  | wordEdge (negated : Bool)
  | seq (first second : Pattern)
  | alt (first second : Pattern)
  | group (index : Nat) (body : Pattern)
  | times (body : Pattern) (least : Nat) (most : Option Nat) (greedy : Bool)
  /-- The body as it matches first; what follows cannot make it match otherwise. -/
  | settled (body : Pattern)
deriving Repr

/-- How far a match has come: the characters before, nearest first, those that follow and how many
they are, and what the groups have taken in. -/
structure Spot where
  before : List Char
  rest : List Char
  left : Nat
  groups : Table Nat (List Char)
deriving Repr, DecidableEq

namespace Pattern

/-- What a match may go on with; it may refuse the spot and ask for another way. -/
abbrev Next := Spot → Option Spot

/-- Match a body again and again. Beyond the least count no two iterations start at one place;
`last` is where the last one started, by the number of characters that were left. -/
def runTimes (body : Next → Next) (least : Nat) (most : Option Nat) (greedy : Bool) :
    Nat → Nat → Option Nat → Next → Next
  | 0, _, _, next => next
  | fuel + 1, count, last, next => fun spot =>
    if count < least then
      body (runTimes body least most greedy fuel (count + 1) last next) spot
    else
      let again := fun _ : Unit =>
        if most.all (count < ·) && last ≠ some spot.left then
          body (runTimes body least most greedy fuel (count + 1) (some spot.left) next) spot
        else none
      if greedy then (again ()).orElse fun _ => next spot
      else (next spot).orElse again

/-- The spots that a class reaches by taking in one character after the other, the furthest first.
`before` are the spots reached so far. -/
def reach (cls : CharClass) (groups : Table Nat (List Char)) :
    Option Nat → List Char → Nat → List Char → List Spot → List Spot
  | _, before, left, [], reached => ⟨before, [], left, groups⟩ :: reached
  | most, before, left, c :: rest, reached =>
    let here : Spot := ⟨before, c :: rest, left, groups⟩
    if most ≠ some 0 && cls.has c then
      reach cls groups (most.map (· - 1)) (c :: before) (left - 1) rest (here :: reached)
    else here :: reached

/-- Match a class again and again, which needs no search inside an iteration. -/
def runClassTimes (cls : CharClass) (least : Nat) (most : Option Nat) (greedy : Bool)
    (next : Next) (spot : Spot) : Option Spot :=
  let reached := reach cls spot.groups most spot.before spot.left spot.rest []
  let allowed := reached.take (reached.length - least)
  (if greedy then allowed else allowed.reverse).findSome? next

/-- Whether a spot is all there is: nothing lies before it and nothing follows. -/
def inEmptyText (spot : Spot) : Bool := spot.before.isEmpty && spot.rest.isEmpty

/-- Whether a spot lies between a word character and something else. -/
def atWordEdge (spot : Spot) : Bool :=
  spot.before.head?.any Text.isWordChar != spot.rest.head?.any Text.isWordChar

/-- Match a pattern at a spot and go on. -/
def run : Pattern → Next → Next
  | .empty, next, spot => next spot
  | .char cls, next, spot =>
    match spot.rest with
    | [] => none
    | c :: rest =>
      if cls.has c then next ⟨c :: spot.before, rest, spot.left - 1, spot.groups⟩ else none
  | .start everyLine, next, spot =>
    if spot.before.isEmpty || (everyLine && spot.before.head? = some '\n') then next spot else none
  | .stop everyLine, next, spot =>
    if spot.rest.isEmpty || spot.rest = ['\n'] || (everyLine && spot.rest.head? = some '\n') then
      next spot
    else none
  | .veryEnd, next, spot => if spot.rest.isEmpty then next spot else none
  | .wordEdge negated, next, spot =>
    if !inEmptyText spot && atWordEdge spot != negated then next spot else none
  | .seq first second, next, spot => first.run (second.run next) spot
  | .alt first second, next, spot => (first.run next spot).orElse fun _ => second.run next spot
  | .group index body, next, spot =>
    body.run
      (fun reached =>
        let taken := spot.rest.take (spot.left - reached.left)
        next { reached with groups := reached.groups.put index taken })
      spot
  | .settled body, next, spot => (body.run some spot).bind next
  | .times (.char cls) least most greedy, next, spot =>
    runClassTimes cls least most greedy next spot
  | .times body least most greedy, next, spot =>
    runTimes body.run least most greedy (least + spot.left + 2) 0 none next spot

/-- No match takes in fewer characters. -/
def leastLength : Pattern → Nat
  | .char _ => 1
  | .seq first second => first.leastLength + second.leastLength
  | .alt first second => min first.leastLength second.leastLength
  | .group _ body => body.leastLength
  | .times body least _ _ => least * body.leastLength
  | .settled body => body.leastLength
  | _ => 0

/-- The first match at one of the places from the given one on. -/
def searchFrom (pattern : Pattern) (before : List Char) (left : Nat) (rest : List Char) :
    Option Spot :=
  match pattern.run some ⟨before, rest, left, []⟩ with
  | some spot => some spot
  | none =>
    match rest with
    | [] => none
    | c :: rest => searchFrom pattern (c :: before) (left - 1) rest

/-- The first match in a text. -/
def search? (pattern : Pattern) (text : String) : Option Spot :=
  if text.length < pattern.leastLength then none else pattern.searchFrom [] text.length text.toList

end Pattern

end SourceAttest
