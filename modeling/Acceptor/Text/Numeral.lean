import Acceptor.Text.Blank

/-!
Whole numbers as people write them: an optional sign and decimal digits of any script,
with single underscores allowed between digits and white space around the whole.
-/

namespace Acceptor.Text

/-- The code points of the digits zero of version 14.0 of the Unicode standard; the other
digits of each script follow its zero. -/
def digitZeros : List Nat :=
  [0x30, 0x660, 0x6F0, 0x7C0, 0x966, 0x9E6, 0xA66, 0xAE6, 0xB66, 0xBE6, 0xC66, 0xCE6, 0xD66,
   0xDE6, 0xE50, 0xED0, 0xF20, 0x1040, 0x1090, 0x17E0, 0x1810, 0x1946, 0x19D0, 0x1A80,
   0x1A90, 0x1B50, 0x1BB0, 0x1C40, 0x1C50, 0xA620, 0xA8D0, 0xA900, 0xA9D0, 0xA9F0, 0xAA50,
   0xABF0, 0xFF10, 0x104A0, 0x10D30, 0x11066, 0x110F0, 0x11136, 0x111D0, 0x112F0, 0x11450,
   0x114D0, 0x11650, 0x116C0, 0x11730, 0x118E0, 0x11950, 0x11C50, 0x11D50, 0x11DA0, 0x16A60,
   0x16AC0, 0x16B50, 0x1D7CE, 0x1D7D8, 0x1D7E2, 0x1D7EC, 0x1D7F6, 0x1E140, 0x1E2F0, 0x1E950,
   0x1FBF0]

def digitValue? (c : Char) : Option Nat :=
  (digitZeros.find? fun first => first ≤ c.toNat && c.toNat ≤ first + 9).map (c.toNat - ·)

/-- Numerals longer than this are not read. -/
def maxDigits : Nat := 4300

/-- May surround a numeral: white space, but not the information separators. -/
def isNumeralBlank (c : Char) : Bool :=
  isBlank c && !(0x1C ≤ c.toNat && c.toNat ≤ 0x1F)

def digitValues? : List Char → Option (List Nat)
  | [] => none
  | [c] => (digitValue? c).map ([·])
  | c :: '_' :: rest => do
      let value ← digitValue? c
      let values ← digitValues? rest
      some (value :: values)
  | c :: rest => do
      let value ← digitValue? c
      let values ← digitValues? rest
      some (value :: values)

def ofDigits (values : List Nat) : Nat :=
  values.foldl (fun total value => 10 * total + value) 0

def natural? (text : List Char) : Option Nat := do
  let values ← digitValues? text
  if values.length ≤ maxDigits then some (ofDigits values) else none

def whole? (text : List Char) : Option Int :=
  let text := text.dropWhile isNumeralBlank
  match (text.reverse.dropWhile isNumeralBlank).reverse with
  | '+' :: rest => (natural? rest).map Int.ofNat
  | '-' :: rest => (natural? rest).map fun n => -Int.ofNat n
  | text => (natural? text).map Int.ofNat

example : whole? " -1_000 ".toList = some (-1000) ∧ whole? "1__0".toList = none := by decide

end Acceptor.Text
