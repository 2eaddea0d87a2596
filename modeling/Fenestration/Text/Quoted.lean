import Fenestration.Number.Notation
import Fenestration.Text.Printable

/-!
# Quoted text

Text inside a list or an object is written between quotes: single ones, or double ones where the
text holds a single quote and no double quote.  A backslash, the quote in use and every character
that is not printable are escaped.
-/

namespace Fenestration.Text

def hexText (width code : Nat) : List Char :=
  padZeros width (Nat.toDigits 16 code)

-- The quote to write a text in.
def quoteFor (cs : List Char) : Char :=
  if cs.contains '\'' && !cs.contains '"' then '"' else '\''

def escape (quote c : Char) : List Char :=
  if c = quote || c = '\\' then ['\\', c]
  else if c = '\n' then ['\\', 'n']
  else if c = '\r' then ['\\', 'r']
  else if c = '\t' then ['\\', 't']
  else if isPrintable c then [c]
  else if c.toNat < 0x100 then '\\' :: 'x' :: hexText 2 c.toNat
  else if c.toNat < 0x10000 then '\\' :: 'u' :: hexText 4 c.toNat
  else '\\' :: 'U' :: hexText 8 c.toNat

/-- The text between quotes. -/
def quoted (s : String) : String :=
  let cs := s.toList
  let quote := quoteFor cs
  String.ofList (quote :: cs.flatMap (escape quote) ++ [quote])

example : quoted "it's" = "\"it's\"" ∧ quoted "a\n\u200b" = "'a\\n\\u200b'" := by decide +kernel

end Fenestration.Text
