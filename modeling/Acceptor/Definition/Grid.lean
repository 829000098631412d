import Acceptor.Definition.Malformed
import Acceptor.Text.Items

/-!
The table form of a definition: a first line with the alphabet, then a row for each
state with its marker, its name and its target on each symbol.

The marker is `-` for the start state, `+` for an accepting one, and `-+` or `+-` for both.
-/

namespace Acceptor.Grid

structure Mark where
  start : Bool := false
  accepting : Bool := false
  deriving DecidableEq, Repr

/-- Reads a marker; a single character other than `-` and `+` says nothing. -/
def readMark (marker : List Char) : Except LineFault Mark :=
  if marker = ['-', '+'] ∨ marker = ['+', '-'] then .ok ⟨true, true⟩
  else if marker = ['-'] then .ok { start := true }
  else if marker = ['+'] then .ok { accepting := true }
  else if marker.length ≤ 1 then .ok {}
  else .error (.unknownMarker (String.ofList marker))

/-- The first of a list of items that stands there twice, at its second place. -/
def firstRepeat? (seen : List String) : List String → Option String
  | [] => none
  | item :: rest => if item ∈ seen then some item else firstRepeat? (seen ++ [item]) rest

def readHeader (text : List Char) : Except LineFault (List String) :=
  let symbols := (Text.fields text).map String.ofList
  match symbols.find? fun symbol => symbol.length ≠ 1 with
  | some symbol => .error (.longSymbol symbol)
  | none =>
      match firstRepeat? [] symbols with
      | some symbol => .error (.repeatedSymbol symbol)
      | none => .ok symbols

/-- A row: the mark and name of a state and its targets, empty where there is none. -/
structure Row where
  mark : Mark
  state : String
  targets : List String
  deriving DecidableEq, Repr

def readRow (width : Nat) (text : List Char) : Except LineFault Row :=
  let cells := Text.fields text
  match cells with
  | marker :: state :: targets =>
      if targets.length = width then do
        let mark ← readMark marker
        if state = [] then
          throw .missingName
        return { mark, state := String.ofList state, targets := targets.map String.ofList }
      else
        .error (.columnCount (2 + width) cells.length)
  | _ => .error (.columnCount (2 + width) cells.length)

def Row.rules (alphabet : List String) (number : Nat) (row : Row) : List Rule :=
  (alphabet.zip row.targets).filterMap fun (symbol, target) =>
    if target = "" then none
    else some { source := row.state, symbol, target, line? := some number }

def addRow (draft : Draft) (number : Nat) (row : Row) : Except LineFault Draft :=
  if row.state ∈ draft.states then
    .error (.repeatedState row.state)
  else if row.mark.start ∧ draft.start?.isSome then
    .error .secondStart
  else
    .ok { draft with
      states := draft.states ++ [row.state]
      start? := if row.mark.start then some row.state else draft.start?
      accepting :=
        if row.mark.accepting then draft.accepting ++ [row.state] else draft.accepting
      rules := draft.rules ++ row.rules draft.alphabet number }

def addLine (draft : Draft) (line : Line) : Except LineFault Draft :=
  readRow draft.alphabet.length line.text >>= addRow draft line.number

def read : List Line → Except MalformedLine Draft
  | [] => .ok {}
  | header :: rows => do
      let alphabet ← (readHeader header.text).mapError header.malformed
      Draft.addLines addLine { alphabet } rows

end Acceptor.Grid
