import Mathlib.Algebra.Group.Nat.Defs
import SourceAttest.Json.Reader
import SourceAttest.Json.Writer
import SourceAttest.Proofs.Base16
import SourceAttest.Proofs.Table

/-!
# Reading what was written

A value without floating point numbers is written as printable ASCII, and reading the text gives it
back (`renders_write`). Characters are read one after the other: a written one never runs into the next,
since the halves of a pair are told from the characters of one unit. Values end where a comma or a
closing bracket stands, so they are read from the front of any such text.
-/
namespace SourceAttest.Json

/-! ### Strings -/

section

variable {opening rest : List Char} {a b c d e f g h : Char} {unit high low : Nat}

/-- A unit that is no first half of a pair is a character of its own, whatever comes behind it. -/
theorem readString_unit (opening : List Char) (digits : fourDigits? a b c d = some unit)
    (whole : isHighSurrogate unit = false) (more : rest ≠ []) :
    readString opening ('\\' :: 'u' :: a :: b :: c :: d :: rest)
      = (readString opening rest).cons (.ofUnit unit) := by
  -- The reader looks for a second half before it looks at the first.
  obtain ⟨next, after, rfl⟩ := List.exists_cons_of_ne_nil more
  rw [readString.eq_def]
  split
  case h_3 equal =>
    simp only [List.cons.injEq, true_and] at equal
    obtain ⟨rfl, rfl, rfl, rfl, rfl, rfl⟩ := equal
    simp only [digits, whole]
    rfl
  case h_4 equal =>
    simp only [List.cons.injEq, true_and] at equal
    obtain ⟨rfl, rfl, rfl, rfl, rfl, rfl⟩ := equal
    simp only [digits]
  all_goals grind

theorem readString_pair (opening : List Char) (first : fourDigits? a b c d = some high)
    (second : fourDigits? e f g h = some low) (isHigh : isHighSurrogate high = true)
    (isLow : isLowSurrogate low = true) (more : rest ≠ []) :
    readString opening ('\\' :: 'u' :: a :: b :: c :: d :: '\\' :: 'u' :: e :: f :: g :: h :: rest)
      = (readString opening rest).cons (.ofPair high low) := by
  rw [readString, first]
  simp [second, isHigh, isLow, more]

theorem readString_short {escaped : Char} (found : shortEscape? c = some escaped) (other : c ≠ 'u') :
    readString opening ('\\' :: c :: rest) = (readString opening rest).cons (.char escaped) := by
  rw [readString, found]
  all_goals simp [other]

theorem readString_char (noQuote : c ≠ '"') (noEscape : c ≠ '\\') (printable : 0x20 ≤ c.toNat) :
    readString opening (c :: rest) = (readString opening rest).cons (.char c) := by
  rw [readString, if_neg (by omega)]
  · exact noQuote
  all_goals
    intros
    exact noEscape ‹_›

end

/-! ### Code escapes -/

theorem exists_codeEscape (unit : Nat) (small : unit < 0x10000) :
    ∃ a b c d, codeEscape unit = ['\\', 'u', a, b, c, d] ∧ fourDigits? a b c d = some unit := by
  refine ⟨_, _, _, _, rfl, ?_⟩
  have each (n : Nat) : Base16.digitValue? (Base16.digit (n % 16)) = some (n % 16) :=
    Base16.digitValue?_digit _ (Nat.mod_lt _ (by decide))
  simp only [fourDigits?, each, Option.some.injEq]
  omega

theorem noSurrogate (c : Char) : c.toNat < 0xD800 ∨ 0xDFFF < c.toNat ∧ c.toNat < 0x110000 := c.valid

theorem isHighSurrogate_toNat (c : Char) : isHighSurrogate c.toNat = false := by
  have range := noSurrogate c
  simp only [isHighSurrogate, Bool.and_eq_false_iff, decide_eq_false_iff_not]
  omega

theorem ofUnit_toNat (c : Char) : CodePoint.ofUnit c.toNat = .char c := by
  have range := noSurrogate c
  rw [CodePoint.ofUnit, dif_neg (by omega), Char.ofNat_toNat]

/-- A character beyond the first plane is the pair of its halves. -/
theorem ofPair_halves {c : Char} (beyond : 0x10000 ≤ c.toNat) :
    CodePoint.ofPair (0xD800 + (c.toNat - 0x10000) / 0x400) (0xDC00 + (c.toNat - 0x10000) % 0x400)
      = .char c := by
  rw [CodePoint.ofPair]
  have whole : 0x10000 + (0xD800 + (c.toNat - 0x10000) / 0x400 - 0xD800) * 0x400
      + (0xDC00 + (c.toNat - 0x10000) % 0x400 - 0xDC00) = c.toNat := by omega
  rw [whole, Char.ofNat_toNat]

theorem readString_codeEscape {opening rest : List Char} {c : Char} (single : c.toNat < 0x10000)
    (more : rest ≠ []) :
    readString opening (codeEscape c.toNat ++ rest) = (readString opening rest).cons (.char c) := by
  obtain ⟨a, b, c', d, written, digits⟩ := exists_codeEscape _ single
  have read := readString_unit opening digits (isHighSurrogate_toNat c) more
  rw [ofUnit_toNat] at read
  rw [written]
  exact read

theorem readString_codeEscapes {opening rest : List Char} {c : Char} (beyond : 0x10000 ≤ c.toNat)
    (more : rest ≠ []) :
    readString opening (codeEscape (0xD800 + (c.toNat - 0x10000) / 0x400)
        ++ codeEscape (0xDC00 + (c.toNat - 0x10000) % 0x400) ++ rest)
      = (readString opening rest).cons (.char c) := by
  have range := noSurrogate c
  obtain ⟨a, b, c', d, written, digits⟩ :=
    exists_codeEscape (0xD800 + (c.toNat - 0x10000) / 0x400) (by omega)
  obtain ⟨e, f, g, h, written', digits'⟩ :=
    exists_codeEscape (0xDC00 + (c.toNat - 0x10000) % 0x400) (by omega)
  have isHigh : isHighSurrogate (0xD800 + (c.toNat - 0x10000) / 0x400) = true := by
    simp only [isHighSurrogate, Bool.and_eq_true, decide_eq_true_eq]
    omega
  have isLow : isLowSurrogate (0xDC00 + (c.toNat - 0x10000) % 0x400) = true := by
    simp only [isLowSurrogate, Bool.and_eq_true, decide_eq_true_eq]
    omega
  have read := readString_pair opening digits digits' isHigh isLow more
  rw [ofPair_halves beyond] at read
  rw [written, written']
  exact read

/-- The ways in which a character is written. -/
inductive Written (c : Char) : List Char → Prop
  | short {e : Char} (named : e ∈ ['"', '\\', 'n', 'r', 't', 'b', 'f'])
      (found : shortEscape? e = some c) : Written c ['\\', e]
  | itself (noQuote : c ≠ '"') (noEscape : c ≠ '\\')
      (printable : 0x20 ≤ c.toNat ∧ c.toNat < 0x7F) : Written c [c]
  | unit (single : c.toNat < 0x10000) : Written c (codeEscape c.toNat)
  | pair (beyond : 0x10000 ≤ c.toNat) :
      Written c (codeEscape (0xD800 + (c.toNat - 0x10000) / 0x400)
        ++ codeEscape (0xDC00 + (c.toNat - 0x10000) % 0x400))

theorem written_writeChar (c : Char) : Written c (writeChar c) := by
  unfold writeChar
  split_ifs with quote slash line back tab bell feed plain single
  iterate 7
    · subst ‹c = _›
      exact .short (by decide) rfl
  · simp only [Bool.and_eq_true, decide_eq_true_eq] at plain
    exact .itself quote slash plain
  · exact .unit single
  · exact .pair (Nat.le_of_not_lt single)

/-- A written character reads back, if something comes behind it. -/
theorem readString_writeChar {opening rest : List Char} (c : Char) (more : rest ≠ []) :
    readString opening (writeChar c ++ rest) = (readString opening rest).cons (.char c) := by
  have written := written_writeChar c
  generalize writeChar c = cs at written
  cases written with
  | short named found =>
    apply readString_short found
    rintro rfl
    exact absurd named (by decide)
  | itself noQuote noEscape printable => exact readString_char noQuote noEscape printable.1
  | unit single => exact readString_codeEscape single more
  | pair beyond => exact readString_codeEscapes beyond more

/-- The quote that closes a written text is what comes behind its last character. -/
theorem readString_written (opening rest : List Char) (cs : List Char) :
    readString opening (cs.flatMap writeChar ++ '"' :: rest) = .ok (cs.map .char, rest) := by
  induction cs with
  | nil => rw [List.flatMap_nil, List.nil_append, readString, List.map_nil]
  | cons c others ih =>
    rw [List.flatMap_cons, List.append_assoc, readString_writeChar c (by simp), ih]
    rfl

theorem shown_chars (text : String) :
    String.ofList ((text.toList.map CodePoint.char).map CodePoint.shown) = text := by
  have each : CodePoint.shown ∘ CodePoint.char = id := rfl
  rw [List.map_map, each, List.map_id, String.ofList_toList]

/-- A text of characters alone is itself. -/
theorem ofPoints_chars (text : String) : ofPoints (text.toList.map .char) = .string text := by
  have whole : (text.toList.map CodePoint.char).any CodePoint.isHalf = false := by
    simp [CodePoint.isHalf]
  rw [ofPoints, dif_neg (by simp [whole]), shown_chars]

theorem writeString_append (text : String) (rest : List Char) :
    writeString text ++ rest = '"' :: (text.toList.flatMap writeChar ++ '"' :: rest) := by
  simp [writeString]

/-! ### Integers -/

/-- What may come behind a value: nothing, or a character that ends it. -/
def Stops (rest : List Char) : Prop := ∀ c ∈ rest.head?, c = ',' ∨ c = ']' ∨ c = '\x7d'

theorem stops_nil : Stops [] := by simp [Stops]

theorem stops_cons {c : Char} (ends : c = ',' ∨ c = ']' ∨ c = '\x7d') (rest : List Char) :
    Stops (c :: rest) := by
  simpa [Stops] using ends

theorem decimal_toDigits (n : Nat) : decimal (Nat.toDigits 10 n) = n := by
  have read : Nat.ofDigitChars 10 (Nat.toDigits 10 n) 0 = n := Nat.ofDigitChars_ten_toDigits
  simp only [Nat.ofDigitChars_eq_foldl, Nat.mul_comm 10] at read
  exact read

theorem isDigit_of_mem_toDigits {n : Nat} {c : Char} (member : c ∈ Nat.toDigits 10 n) :
    c.isDigit = true := Nat.isDigit_of_mem_toDigits (by decide) (by decide) member

/-- Only zero is written with a zero in front. -/
theorem head_toDigits {n : Nat} (positive : 0 < n) : (Nat.toDigits 10 n).head? ≠ some '0' := by
  induction n using Nat.strong_induction_on with
  | _ n ih =>
    by_cases small : n < 10
    · have each : ∀ n < 10, 0 < n → n.digitChar ≠ '0' := by decide
      rw [Nat.toDigits_of_lt_base small]
      simpa using each n small positive
    · have before := ih (n / 10) (by omega) (by omega)
      rw [Nat.toDigits_of_base_le (by decide) (by omega)]
      cases written : Nat.toDigits 10 (n / 10) with
      | nil => exact absurd written Nat.toDigits_ne_nil
      | cons c rest => simpa [written] using before

/-- No number goes on behind a value. -/
theorem Stops.ends {rest : List Char} (stops : Stops rest) :
    rest.takeWhile Char.isDigit = [] ∧ rest.dropWhile Char.isDigit = rest ∧
      fractionDigits rest = ([], rest) ∧ exponentPart? rest = none := by
  cases rest with
  | nil => exact ⟨rfl, rfl, rfl, rfl⟩
  | cons c rest => rcases stops c rfl with rfl | rfl | rfl <;> exact ⟨rfl, rfl, rfl, rfl⟩

theorem wholeDigits_toDigits (n : Nat) {rest : List Char} (stops : Stops rest) :
    wholeDigits (Nat.toDigits 10 n ++ rest) = (Nat.toDigits 10 n, rest) := by
  rcases Nat.eq_zero_or_pos n with rfl | positive
  · rfl
  · obtain ⟨noDigits, others, -⟩ := stops.ends
    have split : wholeDigits (Nat.toDigits 10 n ++ rest)
        = ((Nat.toDigits 10 n ++ rest).takeWhile Char.isDigit,
            (Nat.toDigits 10 n ++ rest).dropWhile Char.isDigit) := by
      apply wholeDigits.eq_2
      intro after equal
      have first := head_toDigits positive
      cases written : Nat.toDigits 10 n with
      | nil => exact Nat.toDigits_ne_nil written
      | cons c digits => simp_all
    rw [split, List.takeWhile_append_of_pos fun c => isDigit_of_mem_toDigits,
      List.dropWhile_append_of_pos fun c => isDigit_of_mem_toDigits, noDigits, others,
      List.append_nil]

theorem readNumber_writeInt {n : Int} {rest : List Char}
    (short : (Nat.toDigits 10 n.natAbs).length ≤ maxIntegerDigits) (stops : Stops rest) :
    readNumber (writeInt n ++ rest) = .ok (.int n, rest) := by
  have whole := wholeDigits_toDigits n.natAbs stops
  obtain ⟨-, -, noFraction, noExponent⟩ := stops.ends
  have fits : ¬maxIntegerDigits < (Nat.toDigits 10 n.natAbs).length := by omega
  rw [writeInt]
  split
  next negative =>
    have value : -(n.natAbs : Int) = n := by omega
    generalize n.natAbs = size at *
    subst value
    simp [readNumber, whole, noFraction, noExponent, fits, decimal_toDigits]
  next positive =>
    have value : (n.natAbs : Int) = n := by omega
    have unsigned : (Nat.toDigits 10 n.natAbs).head? ≠ some '-' := fun same =>
      absurd (isDigit_of_mem_toDigits (List.mem_of_mem_head? same)) (by decide)
    generalize n.natAbs = size at *
    subst value
    simp [readNumber, unsigned, whole, noFraction, noExponent, fits, decimal_toDigits]

/-! ### Values -/

/-- A value that a text holds as it is: its integers are short enough to be read again, it has no
floating point numbers, and none of its objects binds a name twice. -/
inductive Exact : Json → Prop
  | null : Exact .null
  | bool (b : Bool) : Exact (.bool b)
  | int {n : Int} (short : (Nat.toDigits 10 n.natAbs).length ≤ maxIntegerDigits) : Exact (.int n)
  | string (s : String) : Exact (.string s)
  | array {items : List Json} (each : ∀ item ∈ items, Exact item) : Exact (.array items)
  | object {members : List (String × Json)} (distinct : (Table.keys members).Nodup)
      (each : ∀ member ∈ members, Exact member.2) : Exact (.object members)

attribute [simp] Exact.null Exact.bool Exact.string

@[simp] theorem exact_int {n : Int} :
    Exact (.int n) ↔ (Nat.toDigits 10 n.natAbs).length ≤ maxIntegerDigits := by
  constructor
  · intro exact
    cases exact with
    | int short => exact short
  · exact .int

@[simp] theorem exact_array {items : List Json} :
    Exact (.array items) ↔ ∀ item ∈ items, Exact item := by
  constructor
  · intro exact
    cases exact with
    | array each => exact each
  · exact .array

@[simp] theorem exact_object {members : List (String × Json)} :
    Exact (.object members) ↔ (Table.keys members).Nodup ∧ ∀ member ∈ members, Exact member.2 := by
  constructor
  · intro exact
    cases exact with
    | object distinct each => exact ⟨distinct, each⟩
  · rintro ⟨distinct, each⟩
    exact .object distinct each

mutual

/-- How many containers are nested in each other. -/
def depth : Json → Nat
  | .array items => depthItems items + 1
  | .object members => depthMembers members + 1
  | _ => 0

def depthItems : List Json → Nat
  | [] => 0
  | item :: rest => max item.depth (depthItems rest)

def depthMembers : List (String × Json) → Nat
  | [] => 0
  | (_, value) :: rest => max value.depth (depthMembers rest)

end

/-- A text that begins as a value does, without a gap. -/
def Opens (cs : List Char) : Prop :=
  ∃ c rest, cs = c :: rest ∧ isGap c = false ∧ c ∉ [']', '\x7d', '\uFEFF']

theorem opens_writeInt (n : Int) : Opens (writeInt n) := by
  rw [writeInt]
  split
  · exact ⟨_, _, rfl, by decide⟩
  · cases written : Nat.toDigits 10 n.natAbs with
    | nil => exact absurd written Nat.toDigits_ne_nil
    | cons c digits =>
      have digit : c.isDigit = true := isDigit_of_mem_toDigits (n := n.natAbs) (by simp [written])
      have other (d : Char) (noDigit : d.isDigit = false) : c ≠ d := by
        rintro rfl
        exact absurd digit (by simp [noDigit])
      exact ⟨c, digits, rfl, by simp [isGap, other], by simp [other]⟩

theorem opens_writeValue {value : Json} (exact : Exact value) : Opens (writeValue value) := by
  cases exact with
  | int short => exact opens_writeInt _
  | bool b => cases b <;> exact ⟨_, _, rfl, by decide⟩
  | _ => exact ⟨_, _, rfl, by decide⟩

namespace Opens

variable {cs : List Char}

theorem append (opens : Opens cs) (rest : List Char) : Opens (cs ++ rest) := by
  obtain ⟨c, after, rfl, first⟩ := opens
  exact ⟨c, after ++ rest, rfl, first⟩

theorem skipGap (opens : Opens cs) : Json.skipGap cs = cs := by
  obtain ⟨c, rest, rfl, noGap, -⟩ := opens
  rw [Json.skipGap, List.dropWhile_cons_of_neg (by simp [noGap])]

theorem ne_cons (opens : Opens cs) {c : Char} (closes : c ∈ [']', '\x7d', '\uFEFF'])
    (rest : List Char) : cs ≠ c :: rest := by
  rintro rfl
  obtain ⟨d, after, same, -, other⟩ := opens
  exact other ((List.cons.inj same).1 ▸ closes)

theorem head?_ne (opens : Opens cs) {c : Char} (closes : c ∈ [']', '\x7d', '\uFEFF']) :
    cs.head? ≠ some c := by
  intro first
  obtain ⟨rest, begins⟩ := List.head?_eq_some_iff.mp first
  exact opens.ne_cons closes rest begins

end Opens

/-- A value is read from the front of any text that it is written to, with fuel for its length and room
for its depth. -/
def ReadsBack (value : Json) : Prop :=
  ∀ {fuel room : Nat} {rest : List Char}, 2 * (writeValue value).length ≤ fuel + 1 →
    value.depth ≤ room → Stops rest →
      readValue (fuel + 1) room (writeValue value ++ rest) = .ok (value, rest)

theorem writeItems_more (item next : Json) (others : List Json) :
    writeItems (item :: next :: others)
      = writeValue item ++ ',' :: ' ' :: writeItems (next :: others) := rfl

theorem writeMembers_more (name : String) (value : Json) (next : String × Json)
    (others : List (String × Json)) :
    writeMembers ((name, value) :: next :: others)
      = writeString name ++ ':' :: ' ' :: writeValue value ++ ',' :: ' ' ::
          writeMembers (next :: others) := rfl

theorem opens_writeItems {item : Json} (exact : Exact item) (rest : List Json) :
    Opens (writeItems (item :: rest)) := by
  cases rest with
  | nil => exact opens_writeValue exact
  | cons next others => exact (opens_writeValue exact).append _

theorem opens_writeMembers (member : String × Json) (rest : List (String × Json)) :
    Opens (writeMembers (member :: rest)) := by
  obtain ⟨name, value⟩ := member
  cases rest with
  | nil => exact ⟨_, _, rfl, by decide⟩
  | cons next others => exact ⟨_, _, rfl, by decide⟩

@[simp] theorem skipGap_comma (rest : List Char) : skipGap (',' :: rest) = ',' :: rest := rfl

@[simp] theorem skipGap_colon (rest : List Char) : skipGap (':' :: rest) = ':' :: rest := rfl

@[simp] theorem skipGap_brace (rest : List Char) : skipGap ('\x7d' :: rest) = '\x7d' :: rest := rfl

/-- The gap behind a comma or a colon is skipped, and nothing else. -/
theorem skipGap_space {cs : List Char} (opens : Opens cs) : skipGap (' ' :: cs) = cs := by
  rw [skipGap, List.dropWhile_cons_of_pos (by decide)]
  exact opens.skipGap

theorem readItems_writeItems {items : List Json} (filled : items ≠ [])
    (exact : ∀ item ∈ items, Exact item) (each : ∀ item ∈ items, ReadsBack item) {fuel room : Nat}
    {rest : List Char} (enough : 2 * (writeItems items).length ≤ fuel)
    (fits : depthItems items ≤ room) :
    readItems (fuel + 2) room (writeItems items ++ ']' :: rest) = .ok (items, rest) := by
  induction items generalizing fuel with
  | nil => contradiction
  | cons item others ih =>
    obtain ⟨first, each⟩ := List.forall_mem_cons.mp each
    obtain ⟨-, exact⟩ := List.forall_mem_cons.mp exact
    rw [depthItems] at fits
    cases others with
    | nil =>
      rw [writeItems] at enough ⊢
      rw [readItems, first (by omega) (by omega) (stops_cons (by decide) _)]
      rfl
    | cons next others =>
      have opens := (opens_writeItems (exact next List.mem_cons_self) others).append (']' :: rest)
      simp only [writeItems_more, List.length_append, List.length_cons] at enough
      obtain ⟨fuel, rfl⟩ : ∃ less, fuel = less + 1 := ⟨fuel - 1, by omega⟩
      have later := ih (List.cons_ne_nil _ _) exact each (by omega : _ ≤ fuel) (by omega)
      rw [writeItems_more, List.append_assoc, List.cons_append, List.cons_append, readItems,
        first (by omega) (by omega) (stops_cons (by decide) _)]
      simp only [skipGap_comma, skipGap_space opens, later]
      rfl

section

variable {before : Table String Json} {name : String} {value : Json} {fuel room : Nat}
  {rest : List Char}

theorem readMembers_last (exact : Exact value) (reads : ReadsBack value)
    (enough : 2 * (writeValue value).length ≤ fuel + 1) (fits : value.depth ≤ room) :
    readMembers (fuel + 2) room before
        (writeString name ++ ':' :: ' ' :: (writeValue value ++ '\x7d' :: rest))
      = .ok (before.put name value, rest) := by
  have opens := (opens_writeValue exact).append ('\x7d' :: rest)
  have read := reads enough fits (stops_cons (.inr (.inr rfl)) rest)
  rw [writeString_append, readMembers, readString_written]
  simp only [shown_chars]
  simp [skipGap_space opens, read]

theorem readMembers_comma (exact : Exact value) (reads : ReadsBack value)
    (enough : 2 * (writeValue value).length ≤ fuel + 1) (fits : value.depth ≤ room)
    (more : Opens rest) :
    readMembers (fuel + 2) room before
        (writeString name ++ ':' :: ' ' :: (writeValue value ++ ',' :: ' ' :: rest))
      = readMembers (fuel + 1) room (before.put name value) rest := by
  have opens := (opens_writeValue exact).append (',' :: ' ' :: rest)
  have read := reads enough fits (stops_cons (.inl rfl) (' ' :: rest))
  rw [writeString_append, readMembers, readString_written]
  simp only [shown_chars]
  simp [skipGap_space opens, skipGap_space more, read]

end

theorem readMembers_writeMembers {before members : List (String × Json)} (filled : members ≠ [])
    (exact : ∀ member ∈ members, Exact member.2) (each : ∀ member ∈ members, ReadsBack member.2)
    (distinct : (Table.keys (before ++ members)).Nodup) {fuel room : Nat}
    {rest : List Char} (enough : 2 * (writeMembers members).length ≤ fuel)
    (fits : depthMembers members ≤ room) :
    readMembers (fuel + 2) room before (writeMembers members ++ '\x7d' :: rest)
      = .ok (before ++ members, rest) := by
  induction members generalizing before fuel with
  | nil => contradiction
  | cons member others ih =>
    obtain ⟨name, value⟩ := member
    simp only [List.forall_mem_cons] at exact each
    obtain ⟨whole, exact⟩ := exact
    obtain ⟨reads, each⟩ := each
    rw [depthMembers] at fits
    -- The name is new, so the member goes behind those that were read before.
    have new : name ∉ Table.keys before := by
      intro old
      rw [Table.keys, List.map_append] at distinct
      exact (List.nodup_append.mp distinct).2.2 name old name List.mem_cons_self rfl
    have bound : Table.put name value before = before ++ [(name, value)] := Table.put_of_new new value
    cases others with
    | nil =>
      rw [writeMembers] at enough ⊢
      simp only [List.length_append, List.length_cons] at enough
      rw [List.append_assoc, List.cons_append, List.cons_append,
        readMembers_last whole reads (by omega) (by omega), bound]
    | cons next others =>
      have opens := (opens_writeMembers next others).append ('\x7d' :: rest)
      simp only [writeMembers_more, List.length_append, List.length_cons] at enough
      obtain ⟨fuel, rfl⟩ : ∃ less, fuel = less + 1 := ⟨fuel - 1, by omega⟩
      have distinct' : (Table.keys (before ++ [(name, value)] ++ next :: others)).Nodup := by
        rwa [List.append_assoc]
      have later := ih (List.cons_ne_nil _ _) exact each distinct' (by omega : _ ≤ fuel) (by omega)
      rw [writeMembers_more]
      simp only [List.append_assoc, List.cons_append, List.nil_append] at later ⊢
      rw [readMembers_comma whole reads (by omega) (by omega) opens, bound, later]

/-- Nothing but a number begins with a digit. -/
theorem readValue_digit {c : Char} (digit : c.isDigit = true) (fuel room : Nat) (rest : List Char) :
    readValue (fuel + 1) room (c :: rest) = readNumber (c :: rest) := by
  have other {d : Char} (noDigit : d.isDigit = false) : c ≠ d := by
    rintro rfl
    rw [digit] at noDigit
    cases noDigit
  rw [readValue.eq_def]
  dsimp only
  split
  case h_10 => rfl
  all_goals
    next equal => exact absurd (List.cons.inj equal).1 (other rfl)

/-- A sign may also begin the infinite value, but not with a digit behind it. -/
theorem readValue_signed {c : Char} (digit : c.isDigit = true) (fuel room : Nat) (rest : List Char) :
    readValue (fuel + 1) room ('-' :: c :: rest) = readNumber ('-' :: c :: rest) := by
  rw [readValue.eq_def]
  dsimp only
  split
  case h_10 => rfl
  case h_9 equal =>
    obtain ⟨-, equal⟩ := List.cons.inj equal
    obtain ⟨rfl, -⟩ := List.cons.inj equal
    cases digit
  all_goals
    next equal => exact absurd (List.cons.inj equal).1 (by decide)

theorem readValue_writeInt (n : Int) (rest : List Char) (fuel room : Nat) :
    readValue (fuel + 1) room (writeInt n ++ rest) = readNumber (writeInt n ++ rest) := by
  rw [writeInt]
  cases written : Nat.toDigits 10 n.natAbs with
  | nil => exact absurd written Nat.toDigits_ne_nil
  | cons c digits =>
    have first : c.isDigit = true := isDigit_of_mem_toDigits (n := n.natAbs) (by simp [written])
    split
    · exact readValue_signed first fuel room (digits ++ rest)
    · exact readValue_digit first fuel room (digits ++ rest)

theorem readsBack_array {items : List Json} (exact : ∀ item ∈ items, Exact item)
    (each : ∀ item ∈ items, ReadsBack item) : ReadsBack (.array items) := by
  intro fuel room rest enough fits stops
  simp only [writeValue, List.length_append, List.length_cons, List.length_nil] at enough
  rw [depth] at fits
  rw [writeValue, List.append_assoc, List.cons_append, List.singleton_append, readValue,
    if_neg (by omega)]
  cases items with
  | nil => rfl
  | cons item others =>
    have opens := (opens_writeItems (exact item List.mem_cons_self) others).append (']' :: rest)
    obtain ⟨fuel, rfl⟩ : ∃ less, fuel = less + 2 := ⟨fuel - 2, by omega⟩
    rw [opens.skipGap]
    split
    next closed => exact absurd closed (opens.ne_cons (by decide) _)
    · rw [readItems_writeItems (List.cons_ne_nil _ _) exact each (by omega) (by omega)]
      rfl

theorem readsBack_object {members : List (String × Json)} (distinct : (Table.keys members).Nodup)
    (exact : ∀ member ∈ members, Exact member.2) (each : ∀ member ∈ members, ReadsBack member.2) :
    ReadsBack (.object members) := by
  intro fuel room rest enough fits stops
  simp only [writeValue, List.length_append, List.length_cons, List.length_nil] at enough
  rw [depth] at fits
  rw [writeValue, List.append_assoc, List.cons_append, List.singleton_append, readValue,
    if_neg (by omega)]
  cases members with
  | nil => rfl
  | cons member others =>
    have opens := (opens_writeMembers member others).append ('\x7d' :: rest)
    obtain ⟨fuel, rfl⟩ : ∃ less, fuel = less + 2 := ⟨fuel - 2, by omega⟩
    rw [opens.skipGap]
    split
    next closed => exact absurd closed (opens.ne_cons (by decide) _)
    · rw [readMembers_writeMembers (List.cons_ne_nil _ _) exact each distinct (by omega) (by omega)]
      rfl

theorem readsBack_of_exact {value : Json} (exact : Exact value) : ReadsBack value := by
  induction exact with
  | null => exact fun _ _ _ => rfl
  | bool b => cases b <;> exact fun _ _ _ => rfl
  | int short =>
    intro fuel room rest enough fits stops
    rw [writeValue, readValue_writeInt, readNumber_writeInt short stops]
  | string text =>
    intro fuel room rest enough fits stops
    rw [writeValue, writeString_append, readValue, readString_written]
    change Except.ok (ofPoints (text.toList.map .char), rest) = _
    rw [ofPoints_chars]
  | array exact each => exact readsBack_array exact each
  | object distinct exact each => exact readsBack_object distinct exact each

/-! ### Whole texts -/

/-- Read a whole text as one value, with so much room for containers in each other. -/
def readWithin (room : Nat) (cs : List Char) : Except Failure Json :=
  if cs.head? = some '\uFEFF' then .error (.problem .byteOrderMark cs)
  else
    match readValue (enoughFuel cs) room (skipGap cs) with
    | .error failure => .error failure
    | .ok (value, rest) =>
      match skipGap rest with
      | [] => .ok value
      | rest => .error (.problem .extraText rest)

theorem readAll_eq_readWithin : readAll = readWithin maxDepth := rfl

theorem readWithin_writeValue {value : Json} (exact : Exact value) {room : Nat}
    (fits : value.depth ≤ room) : readWithin room (writeValue value) = .ok value := by
  have opens := opens_writeValue exact
  have read : readValue (2 * (writeValue value).length + 2) room (writeValue value ++ [])
      = .ok (value, []) := readsBack_of_exact exact (by omega) fits stops_nil
  rw [List.append_nil] at read
  rw [readWithin, if_neg (opens.head?_ne (by decide)), opens.skipGap, enoughFuel, read]
  rfl

/-! ### Printable text -/

/-- A text of printable ASCII characters. -/
def Printable (cs : List Char) : Prop := ∀ c ∈ cs, 0x20 ≤ c.toNat ∧ c.toNat < 0x7F

instance (cs : List Char) : Decidable (Printable cs) :=
  decidable_of_iff (cs.all fun c => 0x20 ≤ c.toNat && c.toNat < 0x7F) (by simp [Printable])

theorem printable_append {cs ds : List Char} : Printable (cs ++ ds) ↔ Printable cs ∧ Printable ds :=
  List.forall_mem_append

theorem printable_cons {c : Char} {cs : List Char} :
    Printable (c :: cs) ↔ (0x20 ≤ c.toNat ∧ c.toNat < 0x7F) ∧ Printable cs := List.forall_mem_cons

theorem printable_codeEscape (unit : Nat) : Printable (codeEscape unit) := by
  have digits : Printable (Base16.fixed 4 unit) := by
    intro c member
    have range := Base16.isLowDigit_cases (Base16.isLow_fixed 4 unit c member)
    omega
  exact printable_cons.mpr ⟨by decide, printable_cons.mpr ⟨by decide, digits⟩⟩

theorem printable_writeChar (c : Char) : Printable (writeChar c) := by
  have written := written_writeChar c
  generalize writeChar c = cs at written
  cases written with
  | short named found =>
    have each : Printable ['"', '\\', 'n', 'r', 't', 'b', 'f'] := by decide
    exact printable_cons.mpr ⟨by decide, List.forall_mem_singleton.mpr (each _ named)⟩
  | itself noQuote noEscape printable => exact List.forall_mem_singleton.mpr printable
  | unit single => exact printable_codeEscape _
  | pair beyond => exact printable_append.mpr ⟨printable_codeEscape _, printable_codeEscape _⟩

theorem printable_writeString (text : String) : Printable (writeString text) := by
  have chars : Printable (text.toList.flatMap writeChar) := by
    intro c member
    obtain ⟨d, -, written⟩ := List.mem_flatMap.mp member
    exact printable_writeChar d c written
  rw [writeString, List.cons_append]
  exact printable_cons.mpr ⟨by decide, printable_append.mpr ⟨chars, by decide⟩⟩

theorem printable_writeInt (n : Int) : Printable (writeInt n) := by
  have digits : Printable (Nat.toDigits 10 n.natAbs) := by
    intro c member
    have digit : 48 ≤ c.toNat ∧ c.toNat ≤ 57 :=
      Char.isDigit_iff_toNat.mp (isDigit_of_mem_toDigits member)
    omega
  rw [writeInt]
  split
  · exact printable_cons.mpr ⟨by decide, digits⟩
  · exact digits

theorem printable_writeItems {items : List Json} (each : ∀ item ∈ items, Printable (writeValue item)) :
    Printable (writeItems items) := by
  induction items with
  | nil => exact List.forall_mem_nil _
  | cons item others ih =>
    obtain ⟨first, each⟩ := List.forall_mem_cons.mp each
    cases others with
    | nil => exact first
    | cons next others =>
      rw [writeItems_more]
      exact printable_append.mpr ⟨first,
        printable_cons.mpr ⟨by decide, printable_cons.mpr ⟨by decide, ih each⟩⟩⟩

theorem printable_writeMembers {members : List (String × Json)}
    (each : ∀ member ∈ members, Printable (writeValue member.2)) : Printable (writeMembers members) := by
  induction members with
  | nil => exact List.forall_mem_nil _
  | cons member others ih =>
    obtain ⟨name, value⟩ := member
    simp only [List.forall_mem_cons] at each
    obtain ⟨first, each⟩ := each
    have written : Printable (writeString name ++ ':' :: ' ' :: writeValue value) :=
      printable_append.mpr ⟨printable_writeString name,
        printable_cons.mpr ⟨by decide, printable_cons.mpr ⟨by decide, first⟩⟩⟩
    cases others with
    | nil => exact written
    | cons next others =>
      rw [writeMembers_more]
      exact printable_append.mpr ⟨written,
        printable_cons.mpr ⟨by decide, printable_cons.mpr ⟨by decide, ih each⟩⟩⟩

theorem printable_writeValue {value : Json} (exact : Exact value) : Printable (writeValue value) := by
  induction exact with
  | null => decide
  | bool b => cases b <;> decide
  | int short => exact printable_writeInt _
  | string text => exact printable_writeString text
  | array _ each =>
    rw [writeValue, List.cons_append]
    exact printable_cons.mpr ⟨by decide, printable_append.mpr ⟨printable_writeItems each, by decide⟩⟩
  | object _ _ each =>
    rw [writeValue, List.cons_append]
    exact printable_cons.mpr ⟨by decide, printable_append.mpr ⟨printable_writeMembers each, by decide⟩⟩

/-- A text stands for a value: it is printable ASCII, and whoever has room for the nesting of the value
reads it and nothing else. -/
structure Renders (text : String) (value : Json) : Prop where
  printable : Printable text.toList
  reads : ∀ room, value.depth ≤ room → readWithin room text.toList = .ok value

theorem renders_write {value : Json} (exact : Exact value) : Renders value.write value := by
  refine ⟨?_, fun room fits => ?_⟩ <;> rw [write, String.toList_ofList]
  · exact printable_writeValue exact
  · exact readWithin_writeValue exact fits

theorem Renders.read {text : String} {value : Json} (renders : Renders text value)
    (fits : value.depth ≤ maxDepth) : Json.read text = .ok value := by
  rw [Json.read, readAll_eq_readWithin, renders.reads maxDepth fits]

end SourceAttest.Json
