/-!
# Searching and replacing

Plain searches for one text in another, character by character.
-/
namespace SourceAttest.Text

/-- Whether `needle` stands somewhere in the characters. -/
def occursIn (needle : List Char) : List Char → Bool
  | [] => needle.isEmpty
  | c :: rest => needle.isPrefixOf (c :: rest) || occursIn needle rest

/-- Replace the occurrences of a non-empty text from the left, after skipping what is left of an
occurrence already replaced. -/
def replaceFrom (old new : List Char) : Nat → List Char → List Char
  | _, [] => []
  | skip + 1, _ :: rest => replaceFrom old new skip rest
  | 0, c :: rest =>
    if old.isPrefixOf (c :: rest) then new ++ replaceFrom old new (old.length - 1) rest
    else c :: replaceFrom old new 0 rest

/-- Replace every occurrence of a non-empty text from the left. -/
def replace (old new text : String) : String :=
  String.ofList (replaceFrom old.toList new.toList 0 text.toList)

/-- Whether a text begins with another one. -/
def startsWith (start text : String) : Bool := start.toList.isPrefixOf text.toList

end SourceAttest.Text
