import Acceptor.Definition.Malformed
import Acceptor.Text.Items

/-!
The keyword form of a definition: declarations of states, alphabet, start and accepting
states, and rules `source, symbol -> target`, in any order.

Each line is read by itself as a statement, and the statements are then added to a draft
one after another.
-/

namespace Acceptor.Keyword

inductive Section where
  | states
  | alphabet
  | start
  | accepting
  deriving DecidableEq, Repr

def sectionNames : List (List Char × Section) :=
  [("states".toList, .states), ("alphabet".toList, .alphabet), ("start".toList, .start),
    ("accept".toList, .accepting), ("accepting".toList, .accepting),
    ("final".toList, .accepting)]

def sectionNamed? (word : List Char) : Option Section :=
  sectionNames.lookup (word.map Char.toLower)

def isWordChar (c : Char) : Bool :=
  c.isAlpha || c == '_'

/-- The word and the body of a line that has the shape of a declaration. -/
def cutAtColon? (text : List Char) : Option (List Char × List Char) :=
  let word := text.takeWhile isWordChar
  match Text.stripStart (text.dropWhile isWordChar) with
  | ':' :: body => if word = [] then none else some (word, body)
  | _ => none

inductive Statement where
  | declare (kind : Section) (items : List String)
  | rule (source symbol target : String)
  deriving DecidableEq, Repr

def itemNames (text : List Char) : List String :=
  (Text.items text).map String.ofList

def readRule (before after : List Char) : Except LineFault Statement :=
  match itemNames before, itemNames after with
  | [source, symbol], [target] => .ok (.rule source symbol target)
  | _, _ => .error .ruleShape

/-- Reads a declaration; the symbols of an alphabet are single characters. -/
def readDeclaration (kind : Section) (items : List String) : Except LineFault Statement :=
  match kind, items.find? fun item => item.length ≠ 1 with
  | .alphabet, some symbol => .error (.longSymbol symbol)
  | kind, _ => .ok (.declare kind items)

def readStatement (text : List Char) : Except LineFault Statement :=
  -- A colon may be a symbol, so the arrow is looked for first.
  match Line.cutAtArrow? text with
  | some (before, after) => readRule before after
  | none =>
      match cutAtColon? text with
      | none => .error .unrecognized
      | some (word, body) =>
          match sectionNamed? word with
          | none => .error (.unknownDeclaration (String.ofList word))
          | some kind => readDeclaration kind (itemNames body)

def addUnique (fault : String → LineFault) (present : List String) :
    List String → Except LineFault (List String)
  | [] => .ok present
  | item :: rest =>
      if item ∈ present then .error (fault item) else addUnique fault (present ++ [item]) rest

def addStatement (draft : Draft) (number : Nat) : Statement → Except LineFault Draft
  | .declare .states items =>
      (addUnique .repeatedState draft.states items).map fun states => { draft with states }
  | .declare .alphabet items =>
      (addUnique .repeatedSymbol draft.alphabet items).map fun alphabet =>
        { draft with alphabet }
  | .declare .accepting items =>
      (addUnique .repeatedAccepting draft.accepting items).map fun accepting =>
        { draft with accepting }
  | .declare .start items =>
      if draft.start?.isSome then
        .error .secondStart
      else
        match items with
        | [state] => .ok { draft with start? := some state }
        | _ => .error .startCount
  | .rule source symbol target =>
      .ok { draft with
        rules := draft.rules ++ [{ source, symbol, target, line? := some number }] }

def addLine (draft : Draft) (line : Line) : Except LineFault Draft :=
  readStatement line.text >>= addStatement draft line.number

def read (lines : List Line) : Except MalformedLine Draft :=
  Draft.addLines addLine {} lines

end Acceptor.Keyword
