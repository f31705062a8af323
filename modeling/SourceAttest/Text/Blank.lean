/-!
# Blank characters

Two notions of blank: the one that trims a text at both ends, and the narrower one that may
surround a number.
-/
namespace SourceAttest.Text

/-- Blank characters above ASCII: next line, no-break space and the space separators. -/
def isWideBlank (c : Char) : Bool :=
  let n := c.toNat
  n = 0x85 || n = 0xA0 || n = 0x1680 || (0x2000 ≤ n && n ≤ 0x200A) || n = 0x2028 || n = 0x2029 ||
    n = 0x202F || n = 0x205F || n = 0x3000

/-- Tab, line feed, vertical tab, form feed, carriage return and space. -/
def isNarrowBlank (c : Char) : Bool :=
  (9 ≤ c.toNat && c.toNat ≤ 13) || c.toNat = 32

/-- What trimming removes: the narrow blanks, the four information separators and the wide blanks. -/
def isBlank (c : Char) : Bool :=
  isNarrowBlank c || (0x1C ≤ c.toNat && c.toNat ≤ 0x1F) || isWideBlank c

/-- Remove characters of a class from both ends of a list. -/
def trimBoth (p : Char → Bool) (cs : List Char) : List Char :=
  ((cs.dropWhile p).reverse.dropWhile p).reverse

def strip (text : String) : String := String.ofList (trimBoth isBlank text.toList)

theorem isBlank_of_isWhitespace (c : Char) (h : c.isWhitespace = true) : isBlank c = true := by
  simp only [Char.isWhitespace, Bool.or_eq_true, decide_eq_true_eq] at h
  rcases h with ((rfl | rfl) | rfl) | rfl <;> rfl

theorem trimBoth_of_forall {p : Char → Bool} {cs : List Char} (kept : ∀ c ∈ cs, p c = false) :
    trimBoth p cs = cs := by
  have stays : ∀ ds : List Char, (∀ d ∈ ds, p d = false) → ds.dropWhile p = ds := by
    intro ds all
    cases ds with
    | nil => rfl
    | cons d rest => rw [List.dropWhile_cons, if_neg (by simp [all d (by simp)])]
  rw [trimBoth, stays cs kept, stays cs.reverse (by simpa using kept), List.reverse_reverse]

end SourceAttest.Text
