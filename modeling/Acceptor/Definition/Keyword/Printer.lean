import Acceptor.Automaton.Basic
import Acceptor.Settings
import Acceptor.Text.Blank

/-!
Automata as definitions in keyword form.

`print` writes the four declarations and then a rule for each transition.  `Printable` says
which automata have a definition in keyword form at all.
-/

namespace Acceptor.Keyword

/-- A name that can stand as an item: it is not empty, and nothing in it would take it
apart or make a rule of a declaration. -/
structure IsItem (name : List Char) : Prop where
  ne_nil : name ≠ []
  not_separator : ∀ c ∈ name, c ≠ ',' ∧ Text.isBlank c = false
  no_arrow : ¬ ['-', '>'] <:+: name

structure Printable (automaton : Automaton) : Prop where
  state_isItem : ∀ state ∈ automaton.states, IsItem state.toList
  symbol_not_separator : ∀ symbol ∈ automaton.alphabet,
    symbol ≠ ',' ∧ Text.isBlank symbol = false

/-- A declaration: its word, and its items with a comma and a space between them. -/
def printDeclaration (word : String) (items : List String) : List Char :=
  word.toList ++ ':' :: ' ' :: [',', ' '].intercalate (items.map String.toList)

def printRule (marker : CommentMarker) (transition : (String × Char) × String) : List Char :=
  let ((source, symbol), target) := transition
  -- Without the comma the line would be taken for a comment.
  (if source.toList.head? = some marker.char then [','] else []) ++
    source.toList ++ [',', ' ', symbol, ' ', '-', '>', ' '] ++ target.toList

/-- The lines of a definition; `accepting` are the accepting states in the order in which
they are to be declared. -/
def printLines (marker : CommentMarker) (accepting : List String) (automaton : Automaton) :
    List (List Char) :=
  printDeclaration "states" automaton.states ::
    printDeclaration "alphabet" (automaton.alphabet.map String.singleton) ::
    printDeclaration "start" [automaton.start] ::
    printDeclaration "accept" accepting ::
    automaton.transitions.entries.map (printRule marker)

def print (marker : CommentMarker) (accepting : List String) (automaton : Automaton) :
    String :=
  String.ofList ((printLines marker accepting automaton).flatMap (· ++ ['\n']))

end Acceptor.Keyword
