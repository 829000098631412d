import Acceptor.Automaton.Basic
import Acceptor.Automaton.Verdict

/-!
State diagrams: one edge for each pair of a source and a target, labelled with all the
symbols that lead from the one to the other, and how a diagram is drawn.
-/

namespace Acceptor

structure Edge where
  source : String
  target : String
  symbols : List Char
  deriving DecidableEq, Repr

structure Diagram where
  nodes : List String
  edges : List Edge
  deriving DecidableEq, Repr

namespace Diagram

def addTransition (edges : OrderedMap (String × String) (List Char))
    (transition : (String × Char) × String) : OrderedMap (String × String) (List Char) :=
  let ends := (transition.1.1, transition.2)
  edges.insert ends ((edges.get? ends).getD [] ++ [transition.1.2])

/-- The edges of an automaton, in the order in which their first transitions come. -/
def edgeMap (automaton : Automaton) : OrderedMap (String × String) (List Char) :=
  automaton.transitions.entries.foldl addTransition .empty

/-- The state diagram of an automaton.  The edges stand by source, in the order of the
states. -/
def ofAutomaton (automaton : Automaton) : Diagram where
  nodes := automaton.states
  edges :=
    let edges := (edgeMap automaton).entries
    automaton.states.flatMap fun state =>
      (edges.filter fun edge => edge.1.1 = state).map fun ((source, target), symbols) =>
        { source, target, symbols }

abbrev Colour := String

def startColour : Colour := "#59a14f"

def stateColour : Colour := "#87ceeb"

def traceColour : Colour := "#e15759"

def edgeColour : Colour := "#808080"

/-- A state diagram with all that its picture shows, but for where things lie. -/
structure Drawing where
  title : String
  nodeLabels : List String
  nodeColours : List Colour
  /-- Accepting states have a heavy outline. -/
  lineWidths : List Nat
  edgeLabels : List String
  edgeColours : List Colour
  deriving DecidableEq, Repr

def foreignState? (automaton : Automaton) (trace : List String) : Option ForeignState :=
  (trace.find? (· ∉ automaton.states)).map ForeignState.mk

def steps (trace : List String) : List (String × String) :=
  trace.zip trace.tail

def draw (automaton : Automaton) (trace : List String) (title? : Option String) :
    Except ForeignState Drawing :=
  match foreignState? automaton trace with
  | some foreign => .error foreign
  | none =>
      let diagram := ofAutomaton automaton
      let taken := steps trace
      .ok {
        title := title?.getD "DFA"
        nodeLabels := diagram.nodes
        nodeColours := diagram.nodes.map fun state =>
          if state = automaton.start then startColour else stateColour
        lineWidths := diagram.nodes.map fun state =>
          if state ∈ automaton.accepting then 3 else 1
        edgeLabels := diagram.edges.map fun edge =>
          ",".intercalate (edge.symbols.map String.singleton)
        edgeColours := diagram.edges.map fun edge =>
          if taken.contains (edge.source, edge.target) then traceColour else edgeColour }

end Diagram

end Acceptor
