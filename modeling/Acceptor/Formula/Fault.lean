import Acceptor.Formula.Command
import Acceptor.Text.Alphanumeric
import Acceptor.Text.Quoted

/-!
What is amiss with a formula, and how it is shown: the line, a mark below the place of the
fault, and what is said of it.
-/

namespace Acceptor.Formula

inductive Expected where
  /-- The end of the text: no formula begins at the dollar sign that is there. -/
  | ending
  /-- A part that a mark can be put on. -/
  | placeable
  /-- The part that an accent belongs to. -/
  | accented
  | requiredGroup
  | optionalGroup
  | groupEnd
  | delimiter
  | arguments (command : Command)
  /-- A text that has to stand there as it is. -/
  | word (exact : String)
  deriving DecidableEq, Repr

def placeableKinds : List String :=
  ["accent", "symbol", "function", "operatorname", "group", "frac", "dfrac", "binom", "genfrac",
    "overset", "underset", "sqrt", "overline", "text", "boldsymbol", "substack", "phantom",
    "llap", "rlap"]

def Expected.message : Expected → String
  | .ending => "end of text"
  | .placeable => "\x7b" ++ " | ".intercalate placeableKinds ++ "\x7d"
  | .accented => "named_placeable"
  | .requiredGroup => "required_group"
  | .optionalGroup => "optional_group"
  | .groupEnd => "end_group"
  | .delimiter => "a delimiter"
  | .arguments command => command.usage
  | .word exact => Text.quote exact

inductive Script where
  | subscript
  | superscript
  deriving DecidableEq, Repr

def Script.name : Script → String
  | .subscript => "subscript"
  | .superscript => "superscript"

inductive Complaint where
  | expected (what : Expected)
  | unknown (name : List Char)
  /-- A part has a second subscript or a second superscript. -/
  | doubled (script : Script)
  deriving DecidableEq, Repr

def Complaint.message : Complaint → String
  | .expected what => "Expected " ++ what.message
  | .unknown name => "Unknown symbol: \\" ++ String.ofList name
  | .doubled script => "Double " ++ script.name

inductive Fault.Kind where
  /-- What stands there is no formula. -/
  | unread
  /-- What stands there is wrong in itself. -/
  | wrong
  /-- Something has begun that is not brought to its end. -/
  | incomplete
  deriving DecidableEq, Repr

def Fault.Kind.name : Fault.Kind → String
  | .unread => "ParseException"
  | .wrong => "ParseFatalException"
  | .incomplete => "ParseSyntaxException"

structure Fault where
  kind : Fault.Kind
  complaint : Complaint
  /-- The text that is shown, empty if the fault has no place. -/
  line : List Char
  /-- The characters before the place of the fault. -/
  offset : Nat
  deriving DecidableEq, Repr

namespace Fault

/-- As many characters of a word are shown. -/
def maxShown : Nat := 16

/-- The beginning of a text as it is shown: a word of letters and digits or one character. -/
def firstShown (text : List Char) : List Char :=
  match text.takeWhile Text.isAlphanumeric with
  | [] => text.take 1
  | word => word.take maxShown

def quoted (text : List Char) : String :=
  if text = ['\\'] then "'\\'" else String.ofList (Text.quoted text)

def found (fault : Fault) : String :=
  if fault.line = [] then
    ""
  else
    match fault.line.drop fault.offset with
    | [] => ", found end of text"
    | text => ", found " ++ quoted (firstShown text)

def message (fault : Fault) : String :=
  "\n" ++ String.ofList fault.line ++ "\n" ++
    String.ofList (List.replicate fault.offset ' ') ++ "^\n" ++
    fault.kind.name ++ ": " ++ fault.complaint.message ++ fault.found ++
    "  (at char " ++ toString fault.offset ++ "), (line:1, col:" ++
    toString (fault.offset + 1) ++ ")"

example : (Fault.mk .wrong (.expected (.word "\x7d")) ['\x7b'] 1).message =
    "\n\x7b\n ^\nParseFatalException: Expected '\x7d', found end of text" ++
      "  (at char 1), (line:1, col:2)" := by
  decide +kernel

end Fault

end Acceptor.Formula
