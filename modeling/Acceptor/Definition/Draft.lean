/-!
Drafts: automata as a definition writes them down, before anything is checked.
-/

namespace Acceptor

structure Rule where
  source : String
  symbol : String
  target : String
  /-- The line that the rule stands on, if it comes from a text. -/
  line? : Option Int := none
  deriving DecidableEq, Repr

def Rule.key (rule : Rule) : String × String :=
  (rule.source, rule.symbol)

/-- All that a definition declares, in the order in which it does. -/
structure Draft where
  states : List String := []
  alphabet : List String := []
  start? : Option String := none
  accepting : List String := []
  rules : List Rule := []
  deriving DecidableEq, Repr, Inhabited

end Acceptor
