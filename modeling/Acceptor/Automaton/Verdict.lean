import Acceptor.Kind

/-!
Verdicts: what comes of running one input line.
-/

namespace Acceptor

inductive RunFault.Kind where
  | unknownSymbol
  | noTransition
  deriving DecidableEq, Repr

def RunFault.Kind.name : RunFault.Kind → String
  | .unknownSymbol => "unknown_symbol"
  | .noTransition => "no_transition"

def RunFault.Kind.ofName (text : String) : Except UnknownKind RunFault.Kind :=
  kindNamed "SimulationErrorKind" RunFault.Kind.name [.unknownSymbol, .noTransition] text

theorem RunFault.Kind.ofName_name (kind : RunFault.Kind) :
    RunFault.Kind.ofName kind.name = .ok kind := by
  cases kind <;> rfl

structure RunFault where
  kind : RunFault.Kind
  symbol : String
  /-- How many symbols were read before. -/
  position : Int
  /-- The state without a transition. -/
  state? : Option String := none
  deriving DecidableEq, Repr

def RunFault.message (fault : RunFault) : String :=
  match fault.kind with
  | .unknownSymbol =>
      "symbol " ++ Text.quote fault.symbol ++ " at position " ++ toString fault.position ++
        " is not in the alphabet"
  | .noTransition =>
      "no transition from state " ++ (fault.state?.map Text.quote).getD "None" ++
        " on symbol " ++ Text.quote fault.symbol ++ " (position " ++
        toString fault.position ++ ")"

structure Verdict where
  accepted : Bool
  /-- The states visited, the first of them first. -/
  trace : List String
  fault? : Option RunFault := none
  deriving DecidableEq, Repr

def Verdict.final? (verdict : Verdict) : Option String :=
  verdict.trace.getLast?

def Verdict.startingAt (state : String) (verdict : Verdict) : Verdict :=
  { verdict with trace := state :: verdict.trace }

structure ForeignState where
  state : String
  deriving DecidableEq, Repr

def ForeignState.message (foreign : ForeignState) : String :=
  "trace references unknown state: " ++ foreign.state

end Acceptor
