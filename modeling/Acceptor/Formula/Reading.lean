import Acceptor.Formula.Fault
import Acceptor.Formula.Names

/-!
Reading the pieces of a formula.

A reading takes a piece from the front of a text.  It may find the piece, miss it, so that
another piece may be looked for at the same place, or stop at a fault that no other piece
mends.  Places are given by what follows them.
-/

namespace Acceptor.Formula

inductive Reading where
  /-- The piece is there, and `rest` follows it. -/
  | read (rest : List Char)
  /-- The piece is not there. -/
  | missed (complaint : Complaint) (rest : List Char)
  /-- Nothing can be there; some faults have no place. -/
  | stopped (kind : Fault.Kind) (complaint : Complaint) (rest? : Option (List Char))
  deriving DecidableEq, Repr

namespace Reading

def andThen (reading : Reading) (next : List Char → Reading) : Reading :=
  match reading with
  | .read rest => next rest
  | other => other

def orElse (reading : Reading) (other : Unit → Reading) : Reading :=
  match reading with
  | .missed _ _ => other ()
  | found => found

/-- Looks for a piece that has to be there, after what begins only with such a piece. -/
def settle : Reading → Reading
  | .read rest => .read rest
  | .missed complaint rest => .stopped .incomplete complaint (some rest)
  | .stopped _ complaint rest? => .stopped .incomplete complaint rest?

/-- Reads what is inside something: what is wrong there is told of the whole. -/
def within (what : Expected) : Reading → Reading
  | .stopped .wrong _ rest? => .stopped .wrong (.expected what) rest?
  | other => other

/-- Gives a fault without a place the place where reading began, unless it is settled. -/
def placed (start : List Char) : Reading → Reading
  | .stopped .wrong complaint none => .stopped .wrong complaint (some start)
  | other => other

def missing (what : Expected) (text : List Char) : Reading :=
  .missed (.expected what) text

def ofOption (what : Expected) (text : List Char) : Option (List Char) → Reading
  | some rest => .read rest
  | none => missing what text

end Reading

def isGap (c : Char) : Bool :=
  c == ' ' || c == '\t' || c == '\n' || c == '\r'

def skip (text : List Char) : List Char :=
  text.dropWhile isGap

def afterChars? : List Char → List Char → Option (List Char)
  | [], text => some text
  | c :: word, d :: text => if c = d then afterChars? word text else none
  | _ :: _, [] => none

def after? (word : String) (text : List Char) : Option (List Char) :=
  afterChars? word.toList text

/-- What follows the first of some words that stands at the front of a text. -/
def afterAny? (words : List String) (text : List Char) : Option (List Char) :=
  words.findSome? fun word => after? word text

def readWord (word : String) (text : List Char) : Reading :=
  .ofOption (.word word) (skip text) (after? word (skip text))

def readDelimiter (text : List Char) : Reading :=
  .ofOption .delimiter (skip text) (afterAny? delimiters (skip text))

def readOptional (piece : List Char → Reading) (text : List Char) : Reading :=
  (piece text).orElse fun _ => .read text

def readUpTo (piece : List Char → Reading) : Nat → List Char → Reading
  | 0, text => .read text
  | count + 1, text =>
      match piece text with
      | .read rest => readUpTo piece count rest
      | .missed _ _ => .read text
      | .stopped kind complaint rest? => .stopped kind complaint rest?

/-- Reads pieces, as many as there are.  There are no more pieces than characters. -/
def readMany (piece : List Char → Reading) (text : List Char) : Reading :=
  readUpTo piece text.length text

/-- Reads pieces, as many as there are, and at least one. -/
def readSome (piece : List Char → Reading) (text : List Char) : Reading :=
  (piece text).andThen (readMany piece)

/-- The word that a backslash stands before, maybe empty, and what follows it. -/
def control? : List Char → Option (List Char × List Char)
  | '\\' :: text => some (text.takeWhile Char.isAlpha, text.dropWhile Char.isAlpha)
  | _ => none

/-- What follows a backslash and one of some names.  No letter follows the name. -/
def afterName? (names : List String) (text : List Char) : Option (List Char) :=
  match control? text with
  | none => none
  | some (name, rest) => if String.ofList name ∈ names then some rest else none

/-- What follows the digits of a number without a sign.  There is a digit before or behind
the point. -/
def afterDigits? (text : List Char) : Option (List Char) :=
  match text.takeWhile Char.isDigit, text.dropWhile Char.isDigit with
  | [], '.' :: rest =>
      if rest.takeWhile Char.isDigit = [] then none else some (rest.dropWhile Char.isDigit)
  | [], _ => none
  | _, '.' :: rest => some (rest.dropWhile Char.isDigit)
  | _, rest => some rest

def afterNumber? : List Char → Option (List Char)
  | '+' :: text => afterDigits? text
  | '-' :: text => afterDigits? text
  | text => afterDigits? text

/-- What stands before a closing sign, and what follows the sign.  A backslash takes the
meaning from the character behind it; lines do not end before the sign. -/
def enclosed? (sign : Char) : List Char → Option (List Char × List Char)
  | [] => none
  | '\\' :: c :: rest =>
      if c = '\n' then none else (enclosed? sign rest).map fun (inner, rest) =>
        ('\\' :: c :: inner, rest)
  | c :: rest =>
      if c = sign then some ([], rest)
      else if c = '\\' ∨ c = '\n' ∨ c = '\r' then none
      else (enclosed? sign rest).map fun (inner, rest) => (c :: inner, rest)

/-- What follows a text between quotes, given what follows its first quote.  A quote that is
written twice and a quote behind a backslash do not end it; a backslash and an `x` want a
hexadecimal digit. -/
def afterQuoted? (quote : Char) : List Char → Option (List Char)
  | [] => none
  | '\\' :: 'x' :: digit :: rest =>
      if (Text.hexValue? digit).isSome then afterQuoted? quote rest else none
  | '\\' :: c :: rest => if c = 'x' then none else afterQuoted? quote rest
  | c :: d :: rest =>
      if c = quote then
        if d = quote then afterQuoted? quote rest else some (d :: rest)
      else if c = '\n' ∨ c = '\r' then none
      else afterQuoted? quote (d :: rest)
  | [c] => if c = quote then some [] else none

def afterQuotation? : List Char → Option (List Char)
  | '\x22' :: text => afterQuoted? '\x22' text
  | '\x27' :: text => afterQuoted? '\x27' text
  | _ => none

end Acceptor.Formula
