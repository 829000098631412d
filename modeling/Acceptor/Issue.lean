import Acceptor.Definition.Malformed
import Acceptor.Kind

/-!
Issues: what can be wrong, or worth a warning, in a definition.
-/

namespace Acceptor

inductive Issue.Kind where
  | malformedLine
  | emptyStates
  | emptyAlphabet
  | invalidStart
  | invalidAccepting
  | invalidEndpoint
  | nondeterministic
  | incomplete
  | unreachable
  deriving DecidableEq, Repr

def Issue.Kind.name : Issue.Kind → String
  | .malformedLine => "malformed_line"
  | .emptyStates => "empty_states"
  | .emptyAlphabet => "empty_alphabet"
  | .invalidStart => "invalid_start"
  | .invalidAccepting => "invalid_accepting"
  | .invalidEndpoint => "invalid_transition_endpoint"
  | .nondeterministic => "non_deterministic_transition"
  | .incomplete => "incomplete_automaton"
  | .unreachable => "unreachable_state"

def Issue.Kind.all : List Issue.Kind :=
  [.malformedLine, .emptyStates, .emptyAlphabet, .invalidStart, .invalidAccepting,
    .invalidEndpoint, .nondeterministic, .incomplete, .unreachable]

def Issue.Kind.ofName (text : String) : Except UnknownKind Issue.Kind :=
  kindNamed "ValidationKind" Issue.Kind.name Issue.Kind.all text

inductive Issue where
  | malformedLine (line : MalformedLine)
  | noStates
  | noAlphabet
  | noStart
  | undeclaredStart (state : String)
  | undeclaredAccepting (state : String)
  | undeclaredSource (state : String) (line? : Option Int)
  | undeclaredSymbol (symbol : String) (line? : Option Int)
  | undeclaredTarget (state : String) (line? : Option Int)
  /-- A rule with another target than the first rule for the same state and symbol. -/
  | conflict (state symbol first second : String) (line? : Option Int)
  | missing (state symbol : String)
  | unreachable (state : String)
  deriving DecidableEq, Repr

namespace Issue

def kind : Issue → Kind
  | malformedLine _ => .malformedLine
  | noStates => .emptyStates
  | noAlphabet => .emptyAlphabet
  | noStart => .invalidStart
  | undeclaredStart _ => .invalidStart
  | undeclaredAccepting _ => .invalidAccepting
  | undeclaredSource _ _ => .invalidEndpoint
  | undeclaredSymbol _ _ => .invalidEndpoint
  | undeclaredTarget _ _ => .invalidEndpoint
  | conflict _ _ _ _ _ => .nondeterministic
  | missing _ _ => .incomplete
  | unreachable _ => .unreachable

def state? : Issue → Option String
  | undeclaredStart state => some state
  | undeclaredAccepting state => some state
  | undeclaredSource state _ => some state
  | undeclaredTarget state _ => some state
  | conflict state _ _ _ _ => some state
  | missing state _ => some state
  | unreachable state => some state
  | _ => none

def symbol? : Issue → Option String
  | undeclaredSymbol symbol _ => some symbol
  | conflict _ symbol _ _ _ => some symbol
  | missing _ symbol => some symbol
  | _ => none

def line? : Issue → Option Int
  | malformedLine line => some line.number
  | undeclaredSource _ line? => line?
  | undeclaredSymbol _ line? => line?
  | undeclaredTarget _ line? => line?
  | conflict _ _ _ _ line? => line?
  | _ => none

/-- What is said of an issue, but for its line. -/
def message : Issue → String
  | malformedLine line => MalformedLine.explain line.fault.detail line.text
  | noStates => "no states declared"
  | noAlphabet => "no alphabet declared"
  | noStart => "no start state declared"
  | undeclaredStart state =>
      "start state " ++ Text.quote state ++ " is not a declared state"
  | undeclaredAccepting state =>
      "accepting state " ++ Text.quote state ++ " is not a declared state"
  | undeclaredSource state _ =>
      "transition source " ++ Text.quote state ++ " is not a declared state"
  | undeclaredSymbol symbol _ =>
      "transition symbol " ++ Text.quote symbol ++ " is not in the alphabet"
  | undeclaredTarget state _ =>
      "transition target " ++ Text.quote state ++ " is not a declared state"
  | conflict state symbol first second _ =>
      "state " ++ Text.quote state ++ " on symbol " ++ Text.quote symbol ++
        " goes to both " ++ Text.quote first ++ " and " ++ Text.quote second
  | missing state symbol =>
      "no transition from state " ++ Text.quote state ++ " on symbol " ++ Text.quote symbol
  | unreachable state =>
      "state " ++ Text.quote state ++ " is unreachable from the start state"

def withLine (line? : Option Int) (message : String) : String :=
  match line? with
  | some number => MalformedLine.located number message
  | none => message

def render (issue : Issue) : String :=
  withLine issue.line? issue.message

end Issue

end Acceptor
