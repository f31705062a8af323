import SourceAttest.Base16
import SourceAttest.Pattern.Basic
import SourceAttest.Text.Quoted

/-!
# Reading search patterns

The written form of patterns. A pattern that is not well formed is refused with the position at
which the trouble starts.
-/
namespace SourceAttest.Pattern

inductive Problem where
  | groupNotClosed
  | classNotClosed
  | badCounts
  | nothingToRepeat
  | repeatedTwice
  | notOpened
  | badEscape (escape : List Char)
  | escapeAtEnd
  | badRange (range : List Char)
  | badExtension (extension : List Char)
  | nameNotClosed
  | nameMissing
  | badName (name : String)
  | nameTaken (name : String) (index former : Nat)
  | unexpectedEnd
  | lateFlags
  | flagsNotClosed
  | unknownFlag
deriving Repr, DecidableEq

def Problem.text : Problem → String
  | .groupNotClosed => "missing ), unterminated subpattern"
  | .classNotClosed => "unterminated character set"
  | .badCounts => "min repeat greater than max repeat"
  | .nothingToRepeat => "nothing to repeat"
  | .repeatedTwice => "multiple repeat"
  | .notOpened => "unbalanced parenthesis"
  | .badEscape escape => "bad escape " ++ String.ofList escape
  | .escapeAtEnd => "bad escape (end of pattern)"
  | .badRange range => "bad character range " ++ String.ofList range
  | .badExtension extension => "unknown extension ?" ++ String.ofList extension
  | .nameNotClosed => "missing >, unterminated name"
  | .nameMissing => "missing group name"
  | .badName name => "bad character in group name " ++ Text.quoted name
  | .nameTaken name index former =>
    "redefinition of group name " ++ Text.quoted name ++ " as group " ++ toString index ++
      "; was group " ++ toString former
  | .unexpectedEnd => "unexpected end of pattern"
  | .lateFlags => "global flags not at the start of the expression"
  | .flagsNotClosed => "missing -, : or )"
  | .unknownFlag => "unknown flag"

/-- A problem at the start of a remaining text. -/
structure Refusal where
  what : Problem
  remaining : List Char
deriving Repr, DecidableEq

def Refusal.message (refusal : Refusal) (length : Nat) : String :=
  refusal.what.text ++ " at position " ++ toString (length - refusal.remaining.length)

/-- How the characters of a pattern are to be taken. -/
structure Flags where
  ignoresCase : Bool
  everyLine : Bool
  dotTakesAll : Bool
deriving Repr, DecidableEq

def literal (flags : Flags) (c : Char) : Pattern := .char ⟨[.single c], false, flags.ignoresCase⟩

def ofKind (kind : CharKind) (negated : Bool) : Pattern := .char ⟨[.kind kind negated], false, false⟩

def controlEscape? (c : Char) : Option Char :=
  if c = 'a' then some '\x07'
  else if c = 'b' then some '\x08'
  else if c = 'f' then some '\x0c'
  else if c = 'n' then some '\n'
  else if c = 'r' then some '\r'
  else if c = 't' then some '\t'
  else if c = 'v' then some '\x0b'
  else none

/-- The kind of characters of a letter escape, and whether it is meant by what it leaves out. -/
def kindEscape? (c : Char) : Option (CharKind × Bool) :=
  if c = 'd' then some (.digit, false)
  else if c = 'D' then some (.digit, true)
  else if c = 's' then some (.space, false)
  else if c = 'S' then some (.space, true)
  else if c = 'w' then some (.word, false)
  else if c = 'W' then some (.word, true)
  else none

/-- Read the escape after a backslash inside a class. -/
def readClassEscape (c : Char) (rest : List Char) : Except Refusal (ClassPart × List Char) :=
  match kindEscape? c, controlEscape? c with
  | some (kind, negated), _ => .ok (.kind kind negated, rest)
  | none, some control => .ok (.single control, rest)
  | none, none =>
    match c, rest with
    | 'x', h :: l :: rest' =>
      match Base16.digitValue? h, Base16.digitValue? l with
      | some high, some low =>
        let d := Char.ofNat (high * 16 + low)
        .ok (.single d, rest')
      | _, _ => .error ⟨.badEscape ['\\', c], '\\' :: c :: rest⟩
    | _, _ =>
      if c.isAlphanum then .error ⟨.badEscape ['\\', c], '\\' :: c :: rest⟩
      else .ok (.single c, rest)

/-- Read one member of a class. `opening` is the text from the bracket on. -/
def readMember (opening : List Char) : List Char → Except Refusal (ClassPart × List Char)
  | [] => .error ⟨.classNotClosed, opening⟩
  | ['\\'] => .error ⟨.escapeAtEnd, ['\\']⟩
  | '\\' :: c :: rest => readClassEscape c rest
  | c :: rest => .ok (.single c, rest)

/-- Read the members of a class up to the closing bracket, which may be the first member itself. -/
def readClass (opening : List Char) :
    Nat → List ClassPart → List Char → Except Refusal (List ClassPart × List Char)
  | 0, _, _ => .error ⟨.classNotClosed, opening⟩
  | fuel + 1, before, cs =>
    -- A bracket right at the start is a member.
    if cs.head? = some ']' && !before.isEmpty then .ok (before, cs.tail)
    else
      match readMember opening cs with
      | .error refusal => .error refusal
      -- A hyphen before the closing bracket stands for itself.
      | .ok (part, '-' :: ']' :: rest) => .ok (before ++ [part, .single '-'], rest)
      | .ok (part, '-' :: rest) =>
        match readMember opening rest with
        | .error refusal => .error refusal
        | .ok (other, rest') =>
          match part, other with
          | .single first, .single last =>
            if first ≤ last then readClass opening fuel (before ++ [.range first last]) rest'
            else .error ⟨.badRange (cs.take (cs.length - rest'.length)), cs⟩
          | _, _ => .error ⟨.badRange (cs.take (cs.length - rest'.length)), cs⟩
      | .ok (part, rest) => readClass opening fuel (before ++ [part]) rest

def count (cs : List Char) : Nat := cs.foldl (fun n c => n * 10 + (c.toNat - 48)) 0

/-- Counts in braces, after the opening one: the least and the most. Braces around anything else
are no counts. -/
def braceCounts? (cs : List Char) : Option (Nat × Option Nat × List Char) :=
  let low := cs.takeWhile Char.isDigit
  match cs.dropWhile Char.isDigit with
  | '\x7d' :: rest => if low.isEmpty then none else some (count low, some (count low), rest)
  | ',' :: rest =>
    let high := rest.takeWhile Char.isDigit
    match rest.dropWhile Char.isDigit with
    | '\x7d' :: rest' => some (count low, if high.isEmpty then none else some (count high), rest')
    | _ => none
  | _ => none

/-- The counts of a repeat at the front. -/
def repeatCounts? : List Char → Option (Nat × Option Nat × List Char)
  | '*' :: rest => some (0, none, rest)
  | '+' :: rest => some (1, none, rest)
  | '?' :: rest => some (0, some 1, rest)
  | '\x7b' :: rest => braceCounts? rest
  | _ => none

/-- Whether a repeat cannot apply to a pattern, because it takes in nothing. -/
def isAnchor : Pattern → Bool
  | .start _ => true
  | .stop _ => true
  | .veryEnd => true
  | .wordEdge _ => true
  | _ => false

def isRepeat : Pattern → Bool
  | .times .. => true
  | .settled _ => true
  | _ => false

/-- A repeat of an item with what follows the counts: a `?` makes it lazy, a `+` settles it and
each of its iterations. -/
def repeated (item : Pattern) (least : Nat) (most : Option Nat) : List Char → Pattern × List Char
  | '?' :: rest => (.times item least most false, rest)
  | '+' :: rest => (.settled (.times (.settled item) least most true), rest)
  | rest => (.times item least most true, rest)

/-- Whether a text can name a group: word characters, the first of them no digit. -/
def isGroupName : List Char → Bool
  | [] => false
  | c :: rest =>
    Text.isWordChar c && (Text.decimalValue? c).isNone && rest.all Text.isWordChar

/-- Read the name of a group and the bracket behind it. `names` are the names taken so far. -/
def readName (names : Table String Nat) (group : Nat) (cs : List Char) :
    Except Refusal (String × List Char) :=
  let letters := cs.takeWhile (· ≠ '>')
  let name := String.ofList letters
  match cs.dropWhile (· ≠ '>') with
  | [] => .error ⟨if letters.isEmpty then .nameMissing else .nameNotClosed, cs⟩
  | _ :: rest =>
    -- The form of the name is looked at before whether it is taken.
    if letters.isEmpty then .error ⟨.nameMissing, cs⟩
    else if !isGroupName letters then .error ⟨.badName name, cs⟩
    else
      match Table.get? name names with
      | some former => .error ⟨.nameTaken name group former, cs⟩
      | none => .ok (name, rest)

/-- Set one flag by its letter. -/
def setFlag? (flags : Flags) (c : Char) : Option Flags :=
  if c = 'i' then some { flags with ignoresCase := true }
  else if c = 'm' then some { flags with everyLine := true }
  else if c = 's' then some { flags with dotTakesAll := true }
  else if c = 'u' || c = 'a' || c = 'x' then some flags
  else none

def readFlagLetters (flags : Flags) : List Char → Except Refusal (Flags × List Char)
  | [] => .error ⟨.flagsNotClosed, []⟩
  | c :: rest =>
    if c = ':' || c = ')' then .ok (flags, c :: rest)
    else
      match setFlag? flags c with
      | some flags => readFlagLetters flags rest
      | none => .error ⟨if c.isAlpha then .unknownFlag else .flagsNotClosed, c :: rest⟩

/-- Read flags behind a parenthesis and a question mark: at least one letter. -/
def readFlags (flags : Flags) : List Char → Except Refusal (Flags × List Char)
  | [] => .error ⟨.unexpectedEnd, []⟩
  | c :: rest =>
    match setFlag? flags c with
    | some flags => readFlagLetters flags rest
    | none => .error ⟨.badExtension [c], '?' :: c :: rest⟩

/-- Read the flags at the start of a pattern, which hold for all of it. -/
def leadingFlags (flags : Flags) : Nat → List Char → Except Refusal (Flags × List Char)
  | fuel + 1, '(' :: '?' :: c :: rest =>
    if (setFlag? flags c).isSome then
      match readFlags flags (c :: rest) with
      | .ok (flags, ')' :: rest) => leadingFlags flags fuel rest
      -- Flags with a colon belong to a group, which is read later.
      | .ok _ => .ok (flags, '(' :: '?' :: c :: rest)
      | .error refusal => .error refusal
    else .ok (flags, '(' :: '?' :: c :: rest)
  | _, cs => .ok (flags, cs)

/-- Read the escape after a backslash outside a class. -/
def readEscape (flags : Flags) (c : Char) (rest : List Char) : Except Refusal (Pattern × List Char) :=
  if c = 'A' then .ok (.start false, rest)
  else if c = 'Z' then .ok (.veryEnd, rest)
  else if c = 'b' then .ok (.wordEdge false, rest)
  else if c = 'B' then .ok (.wordEdge true, rest)
  else
    match readClassEscape c rest with
    | .error refusal => .error refusal
    | .ok (part, rest) => .ok (.char ⟨[part], false, flags.ignoresCase⟩, rest)

structure Groups where
  number : Nat
  names : Table String Nat

def Groups.next (groups : Groups) : Groups := { groups with number := groups.number + 1 }

def Groups.named (groups : Groups) (name : String) : Groups :=
  ⟨groups.number + 1, (name, groups.number + 1) :: groups.names⟩

/-- What has been read of a pattern: the items before the last one, the last item, to which a
repeat applies, and the groups. -/
structure Progress where
  done : Pattern
  last : Option Pattern
  groups : Groups

def Progress.push (progress : Progress) (item : Pattern) : Progress :=
  match progress.last with
  | none => { progress with last := some item }
  | some last => { progress with done := .seq progress.done last, last := some item }

def Progress.whole (progress : Progress) : Pattern :=
  match progress.last with
  | none => progress.done
  | some last => .seq progress.done last

mutual

/-- Read alternatives up to a closing parenthesis or the end. -/
def readAlternatives (fuel : Nat) (flags : Flags) (groups : Groups) (cs : List Char) :
    Except Refusal (Pattern × Groups × List Char) :=
  match fuel with
  | 0 => .error ⟨.unexpectedEnd, cs⟩
  | fuel + 1 =>
    match readItems fuel flags ⟨.empty, none, groups⟩ cs with
    | .error refusal => .error refusal
    | .ok (first, groups, '|' :: rest) =>
      match readAlternatives fuel flags groups rest with
      | .error refusal => .error refusal
      | .ok (others, groups, rest) => .ok (.alt first others, groups, rest)
    | .ok (first, groups, rest) => .ok (first, groups, rest)

def readItems (fuel : Nat) (flags : Flags) (progress : Progress) (cs : List Char) :
    Except Refusal (Pattern × Groups × List Char) :=
  match fuel with
  | 0 => .error ⟨.unexpectedEnd, cs⟩
  | fuel + 1 =>
    match repeatCounts? cs with
    | some (least, most, rest) =>
      if most.any (· < least) then .error ⟨.badCounts, cs.tail⟩
      else
        match progress.last with
        | none => .error ⟨.nothingToRepeat, cs⟩
        | some item =>
          -- A repeat applies to the last item only, which may be no anchor and no other repeat.
          if isAnchor item then .error ⟨.nothingToRepeat, cs⟩
          else if isRepeat item then .error ⟨.repeatedTwice, cs⟩
          else
            let (whole, rest) := repeated item least most rest
            readItems fuel flags { progress with last := some whole } rest
    | none =>
      match cs with
      | [] => .ok (progress.whole, progress.groups, [])
      | '|' :: _ => .ok (progress.whole, progress.groups, cs)
      | ')' :: _ => .ok (progress.whole, progress.groups, cs)
      | ['\\'] => .error ⟨.escapeAtEnd, cs⟩
      | '\\' :: c :: rest =>
        match readEscape flags c rest with
        | .error refusal => .error refusal
        | .ok (item, rest) => readItems fuel flags (progress.push item) rest
      | '[' :: rest =>
        let negated := rest.head? = some '^'
        match readClass cs (rest.length + 1) [] (if negated then rest.tail else rest) with
        | .error refusal => .error refusal
        | .ok (parts, rest) =>
          readItems fuel flags (progress.push (.char ⟨parts, negated, flags.ignoresCase⟩)) rest
      | '(' :: '?' :: ':' :: rest => readGroup fuel flags flags progress none cs rest
      | '(' :: '?' :: 'P' :: '<' :: rest =>
        let index := progress.groups.number + 1
        match readName progress.groups.names index rest with
        | .error refusal => .error refusal
        | .ok (name, body) =>
          readGroup fuel flags flags { progress with groups := progress.groups.named name }
            (some index) cs body
      | '(' :: '?' :: rest =>
        match readFlags flags rest with
        | .error refusal => .error refusal
        | .ok (inner, ':' :: rest) => readGroup fuel flags inner progress none cs rest
        -- Flags for the whole pattern stand at its start, where they have been read.
        | .ok _ => .error ⟨.lateFlags, cs⟩
      | '(' :: rest =>
        readGroup fuel flags flags { progress with groups := progress.groups.next }
          (some (progress.groups.number + 1)) cs rest
      | '.' :: rest =>
        let anything : CharClass := ⟨if flags.dotTakesAll then [] else [.single '\n'], true, false⟩
        readItems fuel flags (progress.push (.char anything)) rest
      | '^' :: rest => readItems fuel flags (progress.push (.start flags.everyLine)) rest
      | '$' :: rest => readItems fuel flags (progress.push (.stop flags.everyLine)) rest
      | c :: rest => readItems fuel flags (progress.push (literal flags c)) rest

/-- Read the body of a group and what follows it. `opening` is the text from the parenthesis on. -/
def readGroup (fuel : Nat) (flags inner : Flags) (progress : Progress) (index : Option Nat)
    (opening body : List Char) : Except Refusal (Pattern × Groups × List Char) :=
  match fuel with
  | 0 => .error ⟨.unexpectedEnd, body⟩
  | fuel + 1 =>
    match readAlternatives fuel inner progress.groups body with
    | .error refusal => .error refusal
    | .ok (content, groups, ')' :: rest) =>
      let item :=
        match index with
        | some index => Pattern.group index content
        -- A group without a number counts as one item, whatever it holds.
        | none => .seq content .empty
      readItems fuel flags ({ progress with groups := groups }.push item) rest
    | .ok _ => .error ⟨.groupNotClosed, opening⟩

end

/-- A pattern that has been read, with the number of its groups. -/
structure Compiled where
  pattern : Pattern
  groups : Nat
deriving Repr

/-- Every item and every group takes at least one character and at most three steps. -/
def enoughFuel (cs : List Char) : Nat := 3 * cs.length + 3

def readWith (flags : Flags) (cs : List Char) : Except Refusal Compiled :=
  match readAlternatives (enoughFuel cs) flags ⟨0, []⟩ cs with
  | .error refusal => .error refusal
  | .ok (pattern, groups, []) => .ok ⟨pattern, groups.number⟩
  | .ok (_, _, rest) => .error ⟨.notOpened, rest⟩

def read (text : String) : Except String Compiled :=
  let cs := text.toList
  let outcome := do
    let (flags, body) ← leadingFlags ⟨false, false, false⟩ cs.length cs
    readWith flags body
  outcome.mapError (·.message cs.length)

end SourceAttest.Pattern
