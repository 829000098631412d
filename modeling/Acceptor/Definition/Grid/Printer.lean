import Acceptor.Automaton.Basic
import Acceptor.Definition.Grid

/-!
Automata as definitions in table form.

`print` writes the alphabet and then a row for each state.  `Printable` says which automata
have a definition in table form at all.
-/

namespace Acceptor.Grid

/-- A name that can stand in a cell: it is not empty, nothing in it ends the cell or the
line, and no blank stands at either end of it. -/
structure IsCell (name : List Char) : Prop where
  ne_nil : name ≠ []
  not_separator : ∀ c ∈ name, c ≠ ',' ∧ c ≠ '\n' ∧ c ≠ '\r'
  head_not_blank : ∀ c, name.head? = some c → Text.isBlank c = false
  last_not_blank : ∀ c, name.getLast? = some c → Text.isBlank c = false

/-- The automata that a definition in table form can describe.  A colon in the first line
would open the keyword form, and a marker at its beginning would make a comment of it. -/
structure Printable (marker : CommentMarker) (automaton : Automaton) : Prop where
  state_isCell : ∀ state ∈ automaton.states, IsCell state.toList
  symbol_not_separator : ∀ symbol ∈ automaton.alphabet,
    symbol ≠ ',' ∧ symbol ≠ ':' ∧ Text.isBlank symbol = false
  not_comment : automaton.alphabet.head? ≠ some marker.char

def printMark (mark : Mark) : List Char :=
  (if mark.start then ['-'] else []) ++ if mark.accepting then ['+'] else []

def markOf (automaton : Automaton) (state : String) : Mark where
  start := state = automaton.start
  accepting := state ∈ automaton.accepting

def printHeader (automaton : Automaton) : List Char :=
  [','].intercalate (automaton.alphabet.map ([·]))

def printRow (automaton : Automaton) (state : String) : List Char :=
  [','].intercalate
    (printMark (markOf automaton state) :: state.toList ::
      automaton.alphabet.map fun symbol =>
        ((automaton.next? state symbol).map String.toList).getD [])

def print (automaton : Automaton) : String :=
  String.ofList ((printHeader automaton :: automaton.states.map (printRow automaton)).flatMap
    (· ++ ['\n']))

end Acceptor.Grid
