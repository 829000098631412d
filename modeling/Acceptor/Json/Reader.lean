import Acceptor.Json.Basic
import Acceptor.Text.Hexadecimal

/-!
Reading JSON.

Strings are strict: no control character stands in them as itself.  `NaN`, `Infinity` and
`-Infinity` count as numbers.  Nothing but blanks may follow the value.  Arrays and objects
may stand within one another to a fixed depth; the first bracket beyond it is refused,
whatever follows.
-/

namespace Acceptor.Json

inductive Container where
  | array
  | object
  deriving DecidableEq, Repr

def Container.name : Container → String
  | .array => "array"
  | .object => "object"

inductive Fault where
  | malformed
  /-- A container within too many others. -/
  | tooDeep (container : Container)
  /-- An integer with more digits than are read. -/
  | longInteger (digits : Nat)
  deriving DecidableEq, Repr

/-- Integers with more digits are refused. -/
def maxDigits : Nat := 4300

/-- As many containers may stand within one another. -/
def maxDepth : Nat := 990

def Fault.message : Fault → String
  | .malformed => ""
  | .tooDeep container =>
      "maximum recursion depth exceeded while decoding a JSON " ++ container.name ++
        " from a unicode string"
  | .longInteger digits =>
      "Exceeds the limit (" ++ toString maxDigits ++
        " digits) for integer string conversion: value has " ++ toString digits ++
        " digits; use sys.set_int_max_str_digits() to increase the limit"

def isSpace (c : Char) : Bool :=
  c == ' ' || c == '\t' || c == '\n' || c == '\r'

def skipSpace (text : List Char) : List Char :=
  text.dropWhile isSpace

/-- The code unit that four hexadecimal digits stand for. -/
def unit? (a b c d : Char) : Option Nat := do
  let a ← Text.hexValue? a
  let b ← Text.hexValue? b
  let c ← Text.hexValue? c
  let d ← Text.hexValue? d
  some (((a * 16 + b) * 16 + c) * 16 + d)

def shortEscape? : Char → Option Char
  | '\x22' => some '\x22'
  | '\\' => some '\\'
  | '/' => some '/'
  | 'b' => some '\x08'
  | 'f' => some '\x0c'
  | 'n' => some '\n'
  | 'r' => some '\r'
  | 't' => some '\t'
  | _ => none

/-- Reads a string up to its closing quote, as code points and code units. -/
def readUnits : List Char → Except Fault (List Nat × List Char)
  | [] => .error .malformed
  | '\x22' :: rest => .ok ([], rest)
  | '\\' :: 'u' :: a :: b :: c :: d :: rest =>
      match unit? a b c d with
      | none => .error .malformed
      | some unit => (readUnits rest).map fun (units, rest) => (unit :: units, rest)
  | '\\' :: letter :: rest =>
      match shortEscape? letter with
      | none => .error .malformed
      | some c => (readUnits rest).map fun (units, rest) => (c.toNat :: units, rest)
  | c :: rest =>
      if c = '\\' ∨ c.toNat < 0x20 then .error .malformed
      else (readUnits rest).map fun (units, rest) => (c.toNat :: units, rest)

def isHighHalf (unit : Nat) : Bool :=
  0xD800 ≤ unit && unit < 0xDC00

def isLowHalf (unit : Nat) : Bool :=
  0xDC00 ≤ unit && unit < 0xE000

/-- The character of a code unit; a half by itself is replaced by U+FFFD. -/
def charOfUnit (unit : Nat) : Char :=
  if isHighHalf unit || isLowHalf unit then '\ufffd' else Char.ofNat unit

def joinHalves : List Nat → List Char
  | [] => []
  | [unit] => [charOfUnit unit]
  | high :: low :: rest =>
      if isHighHalf high && isLowHalf low then
        Char.ofNat (0x10000 + (high - 0xD800) * 0x400 + (low - 0xDC00)) :: joinHalves rest
      else
        charOfUnit high :: joinHalves (low :: rest)

def readString (text : List Char) : Except Fault (String × List Char) :=
  (readUnits text).map fun (units, rest) => (String.ofList (joinHalves units), rest)

def spanDigits (text : List Char) : List Char × List Char :=
  (text.takeWhile Char.isDigit, text.dropWhile Char.isDigit)

/-- The digits of an integer without sign: a zero alone, or digits of which the first is
not zero. -/
def readIntegerDigits? (text : List Char) : Option (List Char × List Char) :=
  match text with
  | '0' :: rest => some (['0'], rest)
  | _ =>
      match spanDigits text with
      | ([], _) => none
      | found => some found

def spanFraction : List Char → List Char × List Char
  | '.' :: rest =>
      match spanDigits rest with
      | ([], _) => ([], '.' :: rest)
      | (digits, rest) => ('.' :: digits, rest)
  | text => ([], text)

def spanSign : List Char → List Char × List Char
  | '+' :: rest => (['+'], rest)
  | '-' :: rest => (['-'], rest)
  | text => ([], text)

def spanExponent : List Char → List Char × List Char
  | [] => ([], [])
  | c :: rest =>
      if c = 'e' ∨ c = 'E' then
        let (sign, afterSign) := spanSign rest
        match spanDigits afterSign with
        | ([], _) => ([], c :: rest)
        | (digits, rest) => (c :: sign ++ digits, rest)
      else
        ([], c :: rest)

def natOfDigits (digits : List Char) : Nat :=
  digits.foldl (fun total c => 10 * total + (c.toNat - '0'.toNat)) 0

def readNumber (negative : Bool) (text : List Char) : Except Fault (Json × List Char) :=
  match readIntegerDigits? text with
  | none => .error .malformed
  | some (digits, rest) =>
      let (fraction, rest) := spanFraction rest
      let (exponent, rest) := spanExponent rest
      if fraction = [] ∧ exponent = [] then
        if digits.length ≤ maxDigits then
          let value : Int := natOfDigits digits
          .ok (.integer (if negative then -value else value), rest)
        else
          .error (.longInteger digits.length)
      else
        let sign := if negative then ['-'] else []
        .ok (.real (String.ofList (sign ++ digits ++ fraction ++ exponent)), rest)

def readWord : List Char → Except Fault (Json × List Char)
  | 'n' :: 'u' :: 'l' :: 'l' :: rest => .ok (.null, rest)
  | 't' :: 'r' :: 'u' :: 'e' :: rest => .ok (.boolean true, rest)
  | 'f' :: 'a' :: 'l' :: 's' :: 'e' :: rest => .ok (.boolean false, rest)
  | 'N' :: 'a' :: 'N' :: rest => .ok (.real "NaN", rest)
  | 'I' :: 'n' :: 'f' :: 'i' :: 'n' :: 'i' :: 't' :: 'y' :: rest => .ok (.real "Infinity", rest)
  | '-' :: 'I' :: 'n' :: 'f' :: 'i' :: 'n' :: 'i' :: 't' :: 'y' :: rest =>
      .ok (.real "-Infinity", rest)
  | '-' :: rest => readNumber true rest
  | text => readNumber false text

def readName : List Char → Except Fault (String × List Char)
  | '\x22' :: rest => do
      let (name, rest) ← readString rest
      match skipSpace rest with
      | ':' :: rest => return (name, skipSpace rest)
      | _ => throw .malformed
  | _ => .error .malformed

mutual

/-- Reads a value; `fuel` bounds how often values, items and fields are read within one
another and after one another, and `depth` how many containers are opened within one
another. -/
def readValue : (fuel depth : Nat) → List Char → Except Fault (Json × List Char)
  | 0, _, _ => .error .malformed
  | _ + 1, _, '\x22' :: rest => do
      let (value, rest) ← readString rest
      return (.string value, rest)
  | _ + 1, 0, '[' :: _ => .error (.tooDeep .array)
  | fuel + 1, depth + 1, '[' :: rest =>
      match skipSpace rest with
      | ']' :: rest => .ok (.array [], rest)
      | rest => do
          let (first, rest) ← readValue fuel depth rest
          let (items, rest) ← readItems fuel depth (skipSpace rest)
          return (.array (first :: items), rest)
  | _ + 1, 0, '\x7b' :: _ => .error (.tooDeep .object)
  | fuel + 1, depth + 1, '\x7b' :: rest =>
      match skipSpace rest with
      | '\x7d' :: rest => .ok (.object [], rest)
      | rest => do
          let (name, rest) ← readName rest
          let (first, rest) ← readValue fuel depth rest
          let (fields, rest) ← readFields fuel depth (skipSpace rest)
          return (.object ((name, first) :: fields), rest)
  | _ + 1, _, text => readWord text

def readItems : (fuel depth : Nat) → List Char → Except Fault (List Json × List Char)
  | 0, _, _ => .error .malformed
  | _ + 1, _, ']' :: rest => .ok ([], rest)
  | fuel + 1, depth, ',' :: rest => do
      let (item, rest) ← readValue fuel depth (skipSpace rest)
      let (items, rest) ← readItems fuel depth (skipSpace rest)
      return (item :: items, rest)
  | _ + 1, _, _ => .error .malformed

def readFields : (fuel depth : Nat) → List Char →
    Except Fault (List (String × Json) × List Char)
  | 0, _, _ => .error .malformed
  | _ + 1, _, '\x7d' :: rest => .ok ([], rest)
  | fuel + 1, depth, ',' :: rest => do
      let (name, rest) ← readName (skipSpace rest)
      let (value, rest) ← readValue fuel depth rest
      let (fields, rest) ← readFields fuel depth (skipSpace rest)
      return ((name, value) :: fields, rest)
  | _ + 1, _, _ => .error .malformed

end

def read (text : String) : Except Fault Json :=
  let characters := text.toList
  -- Each reading uses up a character, so the fuel cannot run out.
  match readValue (characters.length + 1) maxDepth (skipSpace characters) with
  | .error fault => .error fault
  | .ok (value, rest) => if skipSpace rest = [] then .ok value else .error .malformed

end Acceptor.Json
