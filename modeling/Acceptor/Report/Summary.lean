import Acceptor.Automaton.Basic
import Acceptor.Report.Basic

/-!
Counts over a report: how many lines came to which end, and how often each state was
visited.
-/

namespace Acceptor

structure Summary where
  total : Nat
  accepted : Nat
  /-- What is left when the accepted and the failed lines are taken off; below zero if a
  verdict is both. -/
  rejected : Int
  errored : Nat
  skipped : Nat
  deriving DecidableEq, Repr

namespace Summary

def evaluated (summary : Summary) : Nat :=
  summary.total - summary.skipped

def ofReport (report : Report) : Summary :=
  let given := report.given
  let accepted := given.countP fun verdict => verdict.accepted
  let errored := given.countP fun verdict => verdict.fault?.isSome
  { total := report.verdicts.length
    accepted
    rejected := (given.length : Int) - accepted - errored
    errored
    skipped := report.verdicts.length - given.length }

/-- The share of accepted lines among those that were run; zero if none was. -/
def acceptanceRate (summary : Summary) : Float :=
  if summary.evaluated = 0 then 0.0
  else Float.ofNat summary.accepted / Float.ofNat summary.evaluated

structure Bar where
  label : String
  height : Int
  colour : String
  deriving DecidableEq, Repr

structure Chart where
  title : String
  axis : String
  bars : List Bar
  deriving DecidableEq, Repr

def chart (summary : Summary) (title : String) : Chart where
  title
  axis := "lines"
  bars := [
    ⟨"accepted", summary.accepted, "#59a14f"⟩,
    ⟨"rejected", summary.rejected, "#4e79a7"⟩,
    ⟨"errored", summary.errored, "#e15759"⟩,
    ⟨"skipped", summary.skipped, "#bab0ac"⟩]

end Summary

namespace Report

def visited (report : Report) : List String :=
  report.given.flatMap Verdict.trace

/-- Counts visits one after another; `counts` stands in the order of the states. -/
def countVisits (states : List String) (counts : List Nat) :
    List String → Except ForeignState (List Nat)
  | [] => .ok counts
  | state :: rest =>
      match states.idxOf? state with
      | none => .error ⟨state⟩
      | some place => countVisits states (counts.modify place (· + 1)) rest

/-- How often each state of an automaton was visited, in the order of the states. -/
def visitCounts (report : Report) (automaton : Automaton) :
    Except ForeignState (List Nat) :=
  countVisits automaton.states (automaton.states.map fun _ => 0) report.visited

end Report

end Acceptor
