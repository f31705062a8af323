import SourceAttest.Json.Display
import SourceAttest.Number.Fixed

/-!
# Message templates

A template is a text with directives, each of which stands for a value: `%s` for the value as it is,
`%5d` for an integer in five columns, `%(name)s` for a member of an object. Between the percent sign
and the kind of a directive may stand a name, flags, a width and a precision. A template that does
not fit its values cannot be filled.
-/
namespace SourceAttest.Template

/-- A width or a precision: not given, given, or taken from the values. -/
inductive Size where
  | unset
  | given (n : Nat)
  | taken
deriving Repr, DecidableEq

structure Directive where
  name : Option String
  flags : List Char
  width : Size
  precision : Size
  kind : Char
deriving Repr, DecidableEq

/-! ### Reading directives -/

/-- A name up to its closing parenthesis, inside so many further ones. -/
def nameAt? : Nat → List Char → Option (List Char × List Char)
  | _, [] => none
  | 0, ')' :: rest => some ([], rest)
  | depth + 1, ')' :: rest => (nameAt? depth rest).map fun (name, rest) => (')' :: name, rest)
  | depth, '(' :: rest => (nameAt? (depth + 1) rest).map fun (name, rest) => ('(' :: name, rest)
  | depth, c :: rest => (nameAt? depth rest).map fun (name, rest) => (c :: name, rest)

/-- The name at the front of a directive, if there is one. -/
def optionalName? : List Char → Option (Option String × List Char)
  | '(' :: rest => (nameAt? 0 rest).map fun (name, rest) => (some (String.ofList name), rest)
  | cs => some (none, cs)

def isFlag (c : Char) : Bool := c = '-' || c = '+' || c = ' ' || c = '#' || c = '0'

def sizeAt : List Char → Size × List Char
  | '*' :: rest => (.taken, rest)
  | cs =>
    let digits := cs.takeWhile Char.isDigit
    (if digits.isEmpty then .unset
      else .given (digits.foldl (fun n c => n * 10 + (c.toNat - 48)) 0), cs.dropWhile Char.isDigit)

def precisionAt : List Char → Size × List Char
  | '.' :: rest =>
    match sizeAt rest with
    -- A point without digits stands for zero.
    | (.unset, rest) => (.given 0, rest)
    | size => size
  | cs => (.unset, cs)

/-- Skip the letter that says how wide a number is in storage. -/
def skipStorage : List Char → List Char
  | 'h' :: rest => rest
  | 'l' :: rest => rest
  | 'L' :: rest => rest
  | cs => cs

/-- The directive behind a percent sign, and what follows it. -/
def directive? (cs : List Char) : Option (Directive × List Char) :=
  match optionalName? cs with
  | none => none
  | some (name, cs) =>
    let (width, rest) := sizeAt (cs.dropWhile isFlag)
    let (precision, rest) := precisionAt rest
    match skipStorage rest with
    | [] => none
    | kind :: rest => some (⟨name, cs.takeWhile isFlag, width, precision, kind⟩, rest)

/-! ### Laying out a value -/

/-- The flags and sizes of a directive as they apply to its value. -/
structure Layout where
  left : Bool
  zeros : Bool
  plus : Bool
  blank : Bool
  alternate : Bool
  width : Nat
  precision : Option Nat
deriving Repr, DecidableEq

def spaces (count : Nat) : List Char := List.replicate count ' '

/-- Fill up with spaces, on the right or on the left. -/
def Layout.padded (layout : Layout) (body : List Char) : List Char :=
  let missing := layout.width - body.length
  if layout.left then body ++ spaces missing else spaces missing ++ body

/-- A text, cut to the precision. -/
def Layout.text (layout : Layout) (body : String) : List Char :=
  layout.padded (layout.precision.elim body.toList body.toList.take)

/-- A number: its sign, a mark of its base, and its digits. Zeros fill up between mark and
digits. -/
def Layout.number (layout : Layout) (negative : Bool) (mark digits : List Char) : List Char :=
  let sign :=
    if negative then ['-'] else if layout.plus then ['+'] else if layout.blank then [' '] else []
  let front := sign ++ mark
  if layout.zeros && !layout.left then
    front ++ Binary64.zeroPadded (layout.width - front.length) digits
  else layout.padded (front ++ digits)

/-- An integer in a base. The precision is the least number of digits. -/
def Layout.integer (layout : Layout) (n : Int) (base : Nat) (mark : List Char) : List Char :=
  let digits := Binary64.zeroPadded (layout.precision.getD 0) (Nat.toDigits base n.natAbs)
  layout.number (n < 0) (if layout.alternate then mark else []) digits

/-- A floating point number by the kind of its directive. -/
def Layout.float (layout : Layout) (kind : Char) (x : Binary64) : List Char :=
  let precision := layout.precision.getD 6
  if x.isNaN then layout.number false [] ['n', 'a', 'n']
  else
    let digits :=
      if x.isInfinite then ['i', 'n', 'f']
      else if kind = 'e' then x.scientific layout.alternate precision
      else if kind = 'f' then x.positional layout.alternate precision
      else x.general layout.alternate precision
    layout.number x.isNegative [] digits

/-! ### Values for directives -/

def wholeOf? : Json → Option Int
  | .float x =>
    if x.isNaN || x.isInfinite then none
    else
      let (num, den) := Binary64.scaleDown x.significand 1 (-x.power)
      some (if x.isNegative then -((num / den : Nat) : Int) else ((num / den : Nat) : Int))
  | other => other.integer?

/-- The integer of a value that is one without rounding. -/
def exactOf? : Json → Option Int
  | .int n => some n
  | .bool b => some (if b then 1 else 0)
  | _ => none

/-- The floating point number nearest to a number that is in range. -/
def floatOf? : Json → Option Binary64
  | .float x => some x
  | other =>
    (exactOf? other).bind fun n =>
      let x := Binary64.ofRatio (n < 0) n.natAbs 1
      if x.isInfinite then none else some x

def charOf? : Json → Option Char
  | .string text =>
    match text.toList with
    | [c] => some c
    | _ => none
  | .unpaired text =>
    match text.shown.toList with
    | [c] => some c
    | _ => none
  | other =>
    (exactOf? other).bind fun n =>
      if h : 0 ≤ n ∧ n.toNat.isValidChar then some (Char.ofNatAux n.toNat h.2) else none

/-- A value as a directive of some kind lays it out. -/
def Layout.value? (layout : Layout) (kind : Char) (value : Json) : Option (List Char) :=
  match kind with
  | 's' => some (layout.text value.plain)
  | 'r' => some (layout.text value.shown)
  | 'a' => some (layout.text (Text.asciiOnly value.shown))
  | 'd' | 'i' | 'u' => (wholeOf? value).map fun n => layout.integer n 10 []
  | 'o' => (exactOf? value).map fun n => layout.integer n 8 ['0', 'o']
  | 'x' => (exactOf? value).map fun n => layout.integer n 16 ['0', 'x']
  | 'X' => (exactOf? value).map fun n => (layout.integer n 16 ['0', 'x']).map Char.toUpper
  | 'e' | 'f' | 'g' => (floatOf? value).map (layout.float kind)
  | 'E' | 'F' | 'G' =>
    (floatOf? value).map fun x => (layout.float kind.toLower x).map Char.toUpper
  | 'c' => (charOf? value).map fun c => layout.padded [c]
  | _ => none

/-! ### Filling a template -/

/-- The values of a template: those that directives without a name still take in turn, and the
object that named directives look into. -/
structure Supply where
  values : List Json
  named : Option (List (String × Json))

def Supply.next? (supply : Supply) : Option (Json × Supply) :=
  match supply.values with
  | value :: rest => some (value, { supply with values := rest })
  | [] => none

def Supply.nextSize? (supply : Supply) : Option (Int × Supply) :=
  supply.next?.bind fun (value, supply) => (exactOf? value).map fun n => (n, supply)

/-- Look up the name of a directive. The member found is the only value for this directive. -/
def Supply.lookUp? (supply : Supply) : Option String → Option Supply
  | none => some supply
  | some name =>
    (supply.named.bind (Table.get? name)).map fun value => { supply with values := [value] }

/-- The width of a directive, and whether a negative one puts its value to the left. -/
def Supply.widthOf? (supply : Supply) : Size → Option (Nat × Bool × Supply)
  | .unset => some (0, false, supply)
  | .given n => some (n, false, supply)
  | .taken => supply.nextSize?.map fun (n, supply) => (n.natAbs, n < 0, supply)

/-- The precision of a directive; a negative one stands for zero. -/
def Supply.precisionOf? (supply : Supply) : Size → Option (Option Nat × Supply)
  | .unset => some (none, supply)
  | .given n => some (some n, supply)
  | .taken => supply.nextSize?.map fun (n, supply) => (some n.toNat, supply)

/-- What a directive stands for, and the values left for others. -/
def Directive.fill? (directive : Directive) (supply : Supply) : Option (List Char × Supply) := do
  let supply ← supply.lookUp? directive.name
  let (width, toLeft, supply) ← supply.widthOf? directive.width
  let (precision, supply) ← supply.precisionOf? directive.precision
  -- A percent sign takes no value but may take sizes.
  if directive.kind = '%' then return (['%'], supply)
  let has (flag : Char) : Bool := directive.flags.contains flag
  let layout : Layout :=
    ⟨has '-' || toLeft, has '0', has '+', has ' ', has '#', width, precision⟩
  let (value, supply) ← supply.next?
  return (← layout.value? directive.kind value, supply)

/-- Fill the directives of a text in turn; `fuel` is at least the length of the text. -/
def fillFrom? : Nat → Supply → List Char → Option (List Char × Supply)
  | _, supply, [] => some ([], supply)
  | 0, _, _ => none
  | fuel + 1, supply, '%' :: rest => do
    let (directive, rest) ← directive? rest
    let (filled, supply) ← directive.fill? supply
    let (others, supply) ← fillFrom? fuel supply rest
    return (filled ++ others, supply)
  | fuel + 1, supply, c :: rest =>
    (fillFrom? fuel supply rest).map fun (others, supply) => (c :: others, supply)

/-- The values of a message: a single object that is not empty can be looked into. -/
def Supply.ofArgs : List Json → Supply
  | [.object members] =>
    ⟨[.object members], if members.isEmpty then none else some members⟩
  | args => ⟨args, none⟩

/-- Fill a template. Every value must be used, except in an object that can be looked into. A
template without values is taken as it is. -/
def fill? (template : String) (args : List Json) : Option String :=
  if args.isEmpty then some template
  else
    match fillFrom? template.length (.ofArgs args) template.toList with
    | some (filled, supply) =>
      if supply.values.isEmpty || supply.named.isSome then some (String.ofList filled) else none
    | none => none

end SourceAttest.Template
