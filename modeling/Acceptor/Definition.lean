import Acceptor.Automaton.Basic
import Acceptor.Definition.Reader
import Acceptor.Validation

/-!
Definitions: from the text of a definition to an automaton.

`load` gives the automaton with its warnings or the reason why there is none; `check` gives
the errors and the warnings alone.
-/

namespace Acceptor

/-- The parts of the automaton that a draft describes.  Repeated states and symbols count
once; of rules for one state and symbol the last counts. -/
def Draft.parts (draft : Draft) : Automaton.Parts where
  states := draft.states.eraseDups
  alphabet := draft.alphabet.eraseDups
  transitions := .ofList (draft.rules.map fun rule => (rule.key, rule.target))
  start? := draft.start?
  accepting := draft.accepting

def Draft.build (draft : Draft) : Except Automaton.Fault Automaton :=
  Automaton.build draft.parts

inductive LoadError where
  | malformed (line : MalformedLine)
  | invalid (issues : List Issue)
  /-- The draft passed all checks and yet its parts do not fit together. -/
  | unbuildable (fault : Automaton.Fault)
  deriving DecidableEq, Repr

namespace LoadError

def joined (messages : List String) : String :=
  match "; ".intercalate messages with
  | "" => "validation failed"
  | text => text

/-- What is said of a definition whose draft is refused, given the reasons. -/
def refusal (detail : String) : String :=
  "invalid automaton: " ++ detail

def detail : LoadError → String
  | malformed line => line.fault.detail
  | invalid issues => joined (issues.map Issue.render)
  | unbuildable fault => fault.message

def message : LoadError → String
  | malformed line => line.message
  | invalid issues => refusal (joined (issues.map Issue.render))
  | unbuildable fault => fault.message

end LoadError

structure Loaded where
  automaton : Automaton
  warnings : List Issue

namespace Definition

def loadDraft (policy : Policy) (draft : Draft) : Except LoadError Loaded :=
  match draft.validate policy with
  | .error issues => .error (.invalid issues)
  | .ok warnings =>
      match draft.build with
      | .error fault => .error (.unbuildable fault)
      | .ok automaton => .ok { automaton, warnings }

def load (marker : CommentMarker) (policy : Policy) (text : String) :
    Except LoadError Loaded :=
  match Draft.ofText marker text with
  | .error line => .error (.malformed line)
  | .ok draft => loadDraft policy draft

/-- Judges the text of a definition: its errors, or else its warnings. -/
def check (marker : CommentMarker) (policy : Policy) (text : String) :
    Except (List Issue) (List Issue) :=
  match Draft.ofText marker text with
  -- A line that cannot be read is an error by itself.
  | .error line => .error [.malformedLine line]
  | .ok draft => draft.validate policy

end Definition

end Acceptor
