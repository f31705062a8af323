import SourceAttest.Repository.Path

/-!
# Safe file names

Source paths come from uploaded documents. Before they become file names, unusual characters are
replaced and the first segment that consists of dots is taken out.
-/
namespace SourceAttest

/-- Letters that count as ASCII letters when letter case is ignored: long s, the Kelvin sign, and
the capital and small `i` with and without its dot. -/
def isFoldedLetter (c : Char) : Bool :=
  c = '\u017F' || c = '\u212A' || c = '\u0130' || c = '\u0131'

/-- Characters that file names keep. -/
def keepsInName (c : Char) : Bool :=
  c.isAlphanum || c = '_' || c = '.' || c = '/' || c = '-' || isFoldedLetter c

/-- What follows a run of dots that ends a segment, together with the slash behind it. -/
def afterDots? (cs : List Char) : Option (List Char) :=
  if (cs.takeWhile (· = '.')).isEmpty then none
  else
    match cs.dropWhile (· = '.') with
    | [] => some []
    | '/' :: rest => some rest
    | _ => none

/-- Replace the first segment of dots that follows a slash, slashes included. -/
def replaceInnerDots : List Char → List Char
  | [] => []
  | c :: rest =>
    if c = '/' then
      match afterDots? rest with
      | some after => '_' :: after
      | none => c :: replaceInnerDots rest
    else c :: replaceInnerDots rest

/-- Replace the first segment of dots, slashes included. -/
def replaceFirstDots (cs : List Char) : List Char :=
  match afterDots? cs with
  | some after => '_' :: after
  | none => replaceInnerDots cs

/-- The file name of a source path. -/
def sanitizePath (path : String) : String :=
  String.ofList (replaceFirstDots (path.toList.map fun c => if keepsInName c then c else '_'))

end SourceAttest
