import SourceAttest.Base16
import SourceAttest.Text.Printable
import SourceAttest.Text.Unpaired

/-!
# Quoted text

The quoted form in which messages show a text. The quote is `'`, unless the text holds a `'` and
no `"`. The quote, the backslash and the three common controls have short escapes; other
characters without a printable form are written as two, four or eight hexadecimal digits.
-/
namespace SourceAttest.Text

/-- The quote that encloses a text. -/
def quoteFor (cs : List Char) : Char :=
  if cs.contains '\x27' && !cs.contains '"' then '"' else '\x27'

/-- A character by its code, in two, four or eight digits. -/
def codeEscape (c : Char) : List Char :=
  if c.toNat < 0x100 then '\\' :: 'x' :: Base16.fixed 2 c.toNat
  else if c.toNat < 0x10000 then '\\' :: 'u' :: Base16.fixed 4 c.toNat
  else '\\' :: 'U' :: Base16.fixed 8 c.toNat

/-- One character between quotes. -/
def quoteChar (quote c : Char) : List Char :=
  if c = quote || c = '\\' then ['\\', c]
  else if c = '\n' then ['\\', 'n']
  else if c = '\r' then ['\\', 'r']
  else if c = '\t' then ['\\', 't']
  else if isPrintable c then [c]
  else codeEscape c

def quoted (text : String) : String :=
  let cs := text.toList
  let quote := quoteFor cs
  String.ofList (quote :: cs.flatMap (quoteChar quote) ++ [quote])

/-- One code point between quotes. Half a character has no printable form. -/
def quotePoint (quote : Char) : CodePoint → List Char
  | .char c => quoteChar quote c
  | .half offset => '\\' :: 'u' :: Base16.fixed 4 (CodePoint.unitOf offset)

def quotedUnpaired (text : UnpairedText) : String :=
  let quote := quoteFor text.shown.toList
  String.ofList (quote :: text.points.flatMap (quotePoint quote) ++ [quote])

/-- A text with every character outside ASCII written by its code. -/
def asciiOnly (text : String) : String :=
  String.ofList (text.toList.flatMap fun c => if c.toNat < 128 then [c] else codeEscape c)

end SourceAttest.Text
