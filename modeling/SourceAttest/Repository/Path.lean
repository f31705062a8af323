import SourceAttest.Text.Quoted
import SourceAttest.Text.Search

/-!
# Paths

A path is a list of names behind an anchor. Empty names and single dots say nothing and are left
out; double dots stay, because what they mean depends on the tree.
-/
namespace SourceAttest

/-- Where a path starts: at the working directory, at the top, or at the top by two slashes, which
are kept apart from one. -/
inductive Anchor where
  | here
  | top
  | doubledTop
deriving Repr, DecidableEq

def Anchor.text : Anchor → String
  | .here => ""
  | .top => "/"
  | .doubledTop => "//"

structure Path where
  anchor : Anchor
  names : List String
deriving Repr, DecidableEq

namespace Path

/-- The pieces between slashes; a text without a slash is one piece. -/
def splitSlashes : List Char → List (List Char)
  | [] => [[]]
  | c :: rest =>
    if c = '/' then [] :: splitSlashes rest
    else
      match splitSlashes rest with
      | [] => [[c]]
      | piece :: pieces => (c :: piece) :: pieces

def isName (piece : List Char) : Bool := piece ≠ [] && piece ≠ ['.']

/-- The anchor of a text: exactly two leading slashes are kept. -/
def anchorOf (cs : List Char) : Anchor :=
  match (cs.takeWhile (· = '/')).length with
  | 0 => .here
  | 2 => .doubledTop
  | _ => .top

def ofString (text : String) : Path :=
  ⟨anchorOf text.toList, ((splitSlashes text.toList).filter isName).map String.ofList⟩

/-- The text of a path; the empty path is a single dot. -/
def text (path : Path) : String :=
  if path.anchor = .here ∧ path.names = [] then "."
  else path.anchor.text ++ "/".intercalate path.names

/-- Continue a path by another one. A path with an anchor of its own replaces the first. -/
def append (path more : Path) : Path :=
  if more.anchor = .here then ⟨path.anchor, path.names ++ more.names⟩ else more

def join (path : Path) (more : String) : Path := path.append (ofString more)

def parent (path : Path) : Path := ⟨path.anchor, path.names.dropLast⟩

def quoted (path : Path) : String := Text.quoted path.text

/-- Whether the path holds a NUL, which no operating system call accepts. -/
def hasNul (path : Path) : Bool := path.text.toList.contains '\x00'

theorem splitSlashes_ne_nil (cs : List Char) : splitSlashes cs ≠ [] := by
  cases cs with
  | nil => simp [splitSlashes]
  | cons c rest =>
    simp only [splitSlashes]
    split
    · simp
    · split <;> simp

theorem splitSlashes_no_slash (cs : List Char) : ∀ piece ∈ splitSlashes cs, '/' ∉ piece := by
  induction cs with
  | nil => simp [splitSlashes]
  | cons c rest ih =>
    by_cases h : c = '/'
    · subst h; simpa [splitSlashes] using ih
    · cases hrest : splitSlashes rest with
      | nil => exact absurd hrest (splitSlashes_ne_nil rest)
      | cons piece pieces =>
        rw [hrest] at ih
        simp only [List.mem_cons, forall_eq_or_imp] at ih
        simp only [splitSlashes, h, if_false, hrest, List.mem_cons, forall_eq_or_imp]
        exact ⟨by simp [Ne.symm h, ih.1], ih.2⟩

end Path

end SourceAttest
