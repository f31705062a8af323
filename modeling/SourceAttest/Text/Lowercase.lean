import SourceAttest.Text.CaseTable

/-!
# Lower case

The full lower-case mapping of a text. Two letters need more than a table of partners: `İ` becomes
`i` with a combining dot, and a capital sigma takes its final form after a cased letter that no
cased letter follows.
-/
namespace SourceAttest.Text

def isCased (c : Char) : Bool :=
  if c.toNat < 128 then c.isAlpha else inRanges casedRanges c.toNat

/-- Whether a character is skipped when looking for a cased neighbour. -/
def isCaseIgnorable (c : Char) : Bool :=
  if c.toNat < 128 then c = '\x27' || c = '.' || c = ':' || c = '^' || c.toNat = 0x60
  else inRanges caseIgnorableRanges c.toNat

/-- The single lower-case partner of a character, itself if it has none. -/
def lowerSimple (c : Char) : Char :=
  if c.toNat < 128 then c.toLower
  else
    match caseRuns.find? (·.covers c.toNat) with
    | some run => Char.ofNat (Int.toNat (c.toNat + run.offset))
    | none => c

/-- Whether the nearest character that is not ignorable is cased. -/
def nextIsCased : List Char → Bool
  | [] => false
  | c :: rest => if isCaseIgnorable c then nextIsCased rest else isCased c

/-- The lower-case form of one character between the characters before it, nearest first, and
those after it. -/
def lowerAt (before : List Char) (c : Char) (after : List Char) : List Char :=
  if c = 'İ' then ['i', '\u0307']
  else if c = 'Σ' then
    if nextIsCased before && !nextIsCased after then ['ς'] else ['σ']
  else [lowerSimple c]

/-- Lower the characters that follow `before`, which is kept nearest first. -/
def lowerFrom (before : List Char) : List Char → List Char
  | [] => []
  | c :: rest => lowerAt before c rest ++ lowerFrom (c :: before) rest

def lower (text : String) : String := String.ofList (lowerFrom [] text.toList)

theorem lowerAt_ascii (before after : List Char) (c : Char) (h : c.toNat < 128) :
    lowerAt before c after = [c.toLower] := by
  have dotted : c ≠ 'İ' := by rintro rfl; exact absurd h (by decide)
  have sigma : c ≠ 'Σ' := by rintro rfl; exact absurd h (by decide)
  simp [lowerAt, dotted, sigma, lowerSimple, h]

theorem lowerFrom_ascii (before cs : List Char) (h : ∀ c ∈ cs, c.toNat < 128) :
    lowerFrom before cs = cs.map Char.toLower := by
  induction cs generalizing before with
  | nil => rfl
  | cons c rest ih =>
    simp only [List.mem_cons, forall_eq_or_imp] at h
    simp [lowerFrom, lowerAt_ascii _ _ _ h.1, ih _ h.2]

theorem lowerAt_ne_nil (before : List Char) (c : Char) (after : List Char) :
    lowerAt before c after ≠ [] := by
  unfold lowerAt
  split
  · exact List.cons_ne_nil _ _
  · split
    · split <;> exact List.cons_ne_nil _ _
    · exact List.cons_ne_nil _ _

theorem eq_empty_of_lower_eq_empty {text : String} (empty : lower text = "") : text = "" := by
  have none : lowerFrom [] text.toList = [] := by simpa [lower] using empty
  cases characters : text.toList with
  | nil => exact String.toList_eq_nil_iff.mp characters
  | cons c rest =>
    -- No character is lowered to nothing.
    rw [characters, lowerFrom] at none
    exact absurd (List.append_eq_nil_iff.mp none).1 (lowerAt_ne_nil _ _ _)

end SourceAttest.Text
