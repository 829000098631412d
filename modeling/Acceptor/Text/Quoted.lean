import Acceptor.Text.Hexadecimal
import Acceptor.Text.Printable

/-!
Quoted texts, as messages show names and lines: between quotes, with everything that
cannot be seen, and everything that could be taken for the end, written as an escape.
-/

namespace Acceptor.Text

/-- The quote around a text: the double one if the text has a single quote and no double
one, else the single one. -/
def quoteFor (text : List Char) : Char :=
  if text.contains '\x27' && !text.contains '\x22' then '\x22' else '\x27'

def escape (quote c : Char) : List Char :=
  if c = quote ∨ c = '\\' then ['\\', c]
  else if c = '\n' then ['\\', 'n']
  else if c = '\r' then ['\\', 'r']
  else if c = '\t' then ['\\', 't']
  else if isPrintable c then [c]
  else if c.toNat < 0x100 then '\\' :: 'x' :: hexDigits 2 c.toNat
  else if c.toNat < 0x10000 then '\\' :: 'u' :: hexDigits 4 c.toNat
  else '\\' :: 'U' :: hexDigits 8 c.toNat

def quoted (text : List Char) : List Char :=
  let quote := quoteFor text
  quote :: text.flatMap (escape quote) ++ [quote]

def quote (text : String) : String :=
  String.ofList (quoted text.toList)

example : quote "it's" = "\"it's\"" ∧ quote "\t\u00a0" = "'\\t\\xa0'" := by decide +kernel

end Acceptor.Text
