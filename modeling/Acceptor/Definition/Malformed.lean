import Acceptor.Definition.Draft
import Acceptor.Definition.Line
import Acceptor.Text.Quoted

/-!
Lines of a definition that cannot be read, and what is said of them.  Reading stops at the first.
-/

namespace Acceptor

inductive LineFault where
  /-- Neither a rule nor a declaration. -/
  | unrecognized
  | unknownDeclaration (name : String)
  | longSymbol (symbol : String)
  | repeatedState (state : String)
  | repeatedSymbol (symbol : String)
  | repeatedAccepting (state : String)
  | secondStart
  | startCount
  /-- An arrow with other than two items before it and one after it. -/
  | ruleShape
  | columnCount (expected found : Nat)
  | unknownMarker (marker : String)
  | missingName
  deriving DecidableEq, Repr

def LineFault.detail : LineFault → String
  | .unrecognized => "unrecognized line"
  | .unknownDeclaration name => "unknown declaration " ++ Text.quote name
  | .longSymbol symbol =>
      "alphabet symbol " ++ Text.quote symbol ++ " is not a single character"
  | .repeatedState state => "duplicate state " ++ Text.quote state
  | .repeatedSymbol symbol => "duplicate symbol " ++ Text.quote symbol
  | .repeatedAccepting state => "duplicate accepting state " ++ Text.quote state
  | .secondStart => "multiple start states declared"
  | .startCount => "start declaration needs exactly one state"
  | .ruleShape => "transition must read 'source, symbol -> target'"
  | .columnCount expected found =>
      "expected " ++ toString expected ++ " columns, found " ++ toString found
  | .unknownMarker marker => "unknown state marker " ++ Text.quote marker
  | .missingName => "missing state name"

structure MalformedLine where
  /-- The number of the line in the text, from one on. -/
  number : Nat
  /-- The line, without the blanks at its ends. -/
  text : String
  fault : LineFault
  deriving DecidableEq, Repr

namespace MalformedLine

def explain (detail text : String) : String :=
  detail ++ ": " ++ Text.quote text

def located (number : Int) (message : String) : String :=
  "line " ++ toString number ++ ": " ++ message

def message (line : MalformedLine) : String :=
  located line.number (explain line.fault.detail line.text)

end MalformedLine

def Line.malformed (line : Line) (fault : LineFault) : MalformedLine where
  number := line.number
  text := String.ofList line.text
  fault := fault

/-- Adds lines to a draft in order, up to the first that cannot be added. -/
def Draft.addLines (addLine : Draft → Line → Except LineFault Draft) :
    Draft → List Line → Except MalformedLine Draft :=
  List.foldlM fun draft line => (addLine draft line).mapError line.malformed

end Acceptor
