import Mathlib.Data.Finset.Card
import Acceptor.Proofs.Automaton.Diagram
import Acceptor.Proofs.Automaton.Stops

/-!
Which edges of a diagram a drawing highlights.

A run goes from state to state along transitions, and each transition is part of an edge.  So what
a run visits can always be drawn, and each of its steps shows as a highlighted edge.
-/

namespace Acceptor.Diagram

variable {automaton : Automaton} {trace : List String} {source target line : String}
  {title? : Option String} {foreign : ForeignState} {drawing : Drawing}

/-! ## Steps -/

def Follows (visited : List String) (source target : String) : Prop :=
  ∃ index, visited[index]? = some source ∧ visited[index + 1]? = some target

theorem mem_steps_iff : (source, target) ∈ steps trace ↔ Follows trace source target := by
  rw [List.mem_iff_getElem?]
  apply exists_congr
  intro index
  rw [steps, List.getElem?_zip_eq_some, List.getElem?_tail]

theorem steps_eq_nil_iff : steps trace = [] ↔ trace.length ≤ 1 := by
  rw [← List.length_eq_zero_iff, steps, List.length_zip, List.length_tail]
  omega

/-- A run takes one step for each symbol that it reads, and each step is a transition. -/
theorem exists_next?_of_follows (follows : Follows (automaton.simulate line).trace source target) :
    ∃ symbol, automaton.next? source symbol = some target := by
  obtain ⟨index, isSource, isTarget⟩ := follows
  obtain ⟨length, _, isVerdict, _⟩ := automaton.exists_isVerdict_simulate line
  have bound : index < length := by
    have inTrace := (List.getElem?_eq_some_iff.mp isTarget).1
    rw [isVerdict.trace_length] at inTrace
    exact Nat.lt_of_succ_lt_succ inTrace
  obtain ⟨first, symbol, next, isFirst, _, isNext, moved⟩ := isVerdict.trace_step index bound
  rw [isSource] at isFirst
  rw [isTarget] at isNext
  cases isFirst
  cases isNext
  exact ⟨symbol, moved⟩

theorem exists_edge_of_follows (follows : Follows (automaton.simulate line).trace source target) :
    ∃ edge ∈ (ofAutomaton automaton).edges, edge.ends = (source, target) :=
  ((depicts_ofAutomaton automaton).exists_edge_iff source target).mpr
    (exists_next?_of_follows follows)

/-- A run takes no step if there is nothing to read, or if it stops on the first symbol. -/
theorem steps_simulate_eq_nil_iff :
    steps (automaton.simulate line).trace = [] ↔
      line = "" ∨ ∃ fault, (automaton.simulate line).fault? = some fault ∧ fault.position = 0 := by
  obtain ⟨length, longest, isVerdict, _⟩ := automaton.exists_isVerdict_simulate line
  rw [steps_eq_nil_iff, isVerdict.trace_length]
  rcases Nat.lt_or_eq_of_le longest.1.1 with early | finished
  · obtain ⟨_, last, symbol, _, _, stopped⟩ := isVerdict.stopped early
    have nonempty : line ≠ "" := by
      intro empty
      rw [empty] at early
      exact absurd early (Nat.not_lt_zero length)
    simp only [stopped, Option.some.injEq, exists_eq_left', Automaton.position_stopFault, nonempty,
      false_or]
    omega
  · have clean := (isVerdict.finished finished).1
    have empty_iff : line = "" ↔ line.length = 0 := String.length_eq_zero_iff.symm
    simp only [clean, reduceCtorEq, false_and, exists_false, or_false]
    rw [finished, String.length_toList, empty_iff]
    omega

/-! ## Foreign states -/

theorem foreignState?_eq_none_iff :
    foreignState? automaton trace = none ↔ ∀ state ∈ trace, state ∈ automaton.states := by
  simp [foreignState?]

theorem foreignState?_eq_some_iff :
    foreignState? automaton trace = some foreign ↔
      ∃ before after, trace = before ++ foreign.state :: after ∧
        (∀ visited ∈ before, visited ∈ automaton.states) ∧ foreign.state ∉ automaton.states := by
  simp only [foreignState?, Option.map_eq_some_iff, List.find?_eq_some_iff_append]
  constructor
  · rintro ⟨state, ⟨isForeign, before, after, shape, own⟩, rfl⟩
    exact ⟨before, after, shape, by simpa using own, of_decide_eq_true isForeign⟩
  · rintro ⟨before, after, shape, own, isForeign⟩
    exact ⟨foreign.state, ⟨decide_eq_true isForeign, before, after, shape, by simpa using own⟩, rfl⟩

theorem draw_eq_error_iff :
    draw automaton trace title? = .error foreign ↔ foreignState? automaton trace = some foreign := by
  unfold draw
  cases foreignState? automaton trace <;> simp

/-! ## Colours -/

/-- The highlighted edges are those along which a trace goes. -/
def Highlights (automaton : Automaton) (trace : List String) (drawing : Drawing) : Prop :=
  List.Forall₂ (fun edge colour =>
    (colour = traceColour ↔ Follows trace edge.source edge.target) ∧
      (colour = edgeColour ↔ ¬ Follows trace edge.source edge.target))
    (ofAutomaton automaton).edges drawing.edgeColours

def colourOf (taken : List (String × String)) (edge : Edge) : Colour :=
  if taken.contains edge.ends then traceColour else edgeColour

theorem colourOf_eq_traceColour_iff {taken : List (String × String)} {edge : Edge} :
    colourOf taken edge = traceColour ↔ edge.ends ∈ taken := by
  rw [← List.contains_iff_mem, colourOf]
  split
  next isTaken => exact iff_of_true rfl isTaken
  next notTaken => exact iff_of_false (by decide) notTaken

theorem colourOf_eq_edgeColour_iff {taken : List (String × String)} {edge : Edge} :
    colourOf taken edge = edgeColour ↔ edge.ends ∉ taken := by
  rw [← List.contains_iff_mem, colourOf]
  split
  next isTaken => exact iff_of_false (by decide) (not_not.mpr isTaken)
  next notTaken => exact iff_of_true rfl notTaken

theorem edgeColours_of_draw (drawn : draw automaton trace title? = .ok drawing) :
    drawing.edgeColours = (ofAutomaton automaton).edges.map (colourOf (steps trace)) := by
  unfold draw at drawn
  split at drawn
  · contradiction
  · cases drawn
    rfl

theorem highlights_of_draw (drawn : draw automaton trace title? = .ok drawing) :
    Highlights automaton trace drawing := by
  rw [Highlights, edgeColours_of_draw drawn, List.forall₂_map_right_iff, List.forall₂_same]
  intro edge _
  rw [colourOf_eq_traceColour_iff, colourOf_eq_edgeColour_iff, Edge.ends, mem_steps_iff]
  exact ⟨Iff.rfl, Iff.rfl⟩

/-- If each step is along an edge, then as many edges are highlighted as there are different
steps. -/
theorem count_traceColour (taken : List (String × String))
    (areEdges : ∀ ends ∈ taken, ends ∈ (ofAutomaton automaton).edges.map Edge.ends) :
    ((ofAutomaton automaton).edges.map (colourOf taken)).count traceColour =
      taken.toFinset.card := by
  let shown := ((ofAutomaton automaton).edges.map Edge.ends).filter (· ∈ taken)
  have sameSteps : shown.toFinset = taken.toFinset := by
    ext ends
    simp only [shown, List.mem_toFinset, List.mem_filter, decide_eq_true_eq]
    exact ⟨And.right, fun isTaken => ⟨areEdges ends isTaken, isTaken⟩⟩
  have distinct : shown.Nodup := ends_nodup.filter _
  rw [← sameSteps, List.toFinset_card_of_nodup distinct, ← List.countP_eq_length_filter,
    List.countP_map, List.count, List.countP_map]
  apply List.countP_congr
  intro edge _
  simp [colourOf_eq_traceColour_iff]

/-! ## Drawings -/

/-- The drawing shows a run on a line: each of its steps is a highlighted edge. -/
structure ShowsRun (automaton : Automaton) (line : String) (drawing : Drawing) : Prop where
  exists_edge : ∀ source target, Follows (automaton.simulate line).trace source target →
    ∃ edge ∈ (ofAutomaton automaton).edges, edge.ends = (source, target)
  highlights : Highlights automaton (automaton.simulate line).trace drawing
  count_eq : ∃ taken : Finset (String × String),
    (∀ source target, (source, target) ∈ taken ↔
      Follows (automaton.simulate line).trace source target) ∧
      drawing.edgeColours.count traceColour = taken.card
  plain_iff : traceColour ∉ drawing.edgeColours ↔
    line = "" ∨ ∃ fault, (automaton.simulate line).fault? = some fault ∧ fault.position = 0

/-- A trace is drawn unless it visits a state that the automaton does not have; the first such
state is named. -/
structure DrawsTrace (automaton : Automaton) (title? : Option String) (trace : List String) :
    Prop where
  fails_iff : (∃ foreign, draw automaton trace title? = .error foreign) ↔
    ∃ state ∈ trace, state ∉ automaton.states
  names_iff : ∀ foreign, draw automaton trace title? = .error foreign ↔
    ∃ before after, trace = before ++ foreign.state :: after ∧
      (∀ visited ∈ before, visited ∈ automaton.states) ∧ foreign.state ∉ automaton.states
  highlights : ∀ drawing, draw automaton trace title? = .ok drawing →
    Highlights automaton trace drawing

theorem drawsTrace (automaton : Automaton) (title? : Option String) (trace : List String) :
    DrawsTrace automaton title? trace where
  fails_iff := by
    simp only [draw_eq_error_iff]
    rw [← Option.isSome_iff_exists, ← Option.ne_none_iff_isSome, Ne, foreignState?_eq_none_iff]
    simp
  names_iff := by
    intro foreign
    rw [draw_eq_error_iff, foreignState?_eq_some_iff]
  highlights := fun _ drawn => highlights_of_draw drawn

theorem exists_draw_simulate (automaton : Automaton) (title? : Option String) (line : String) :
    ∃ drawing, draw automaton (automaton.simulate line).trace title? = .ok drawing := by
  have own : foreignState? automaton (automaton.simulate line).trace = none :=
    foreignState?_eq_none_iff.mpr fun _ visited => Automaton.mem_states_of_mem_trace visited
  unfold draw
  rw [own]
  exact ⟨_, rfl⟩

theorem showsRun_of_draw
    (drawn : draw automaton (automaton.simulate line).trace title? = .ok drawing) :
    ShowsRun automaton line drawing := by
  have areEdges : ∀ ends ∈ steps (automaton.simulate line).trace,
      ends ∈ (ofAutomaton automaton).edges.map Edge.ends := by
    intro ends isStep
    exact List.mem_map.mpr (exists_edge_of_follows (mem_steps_iff.mp isStep))
  have count_eq : drawing.edgeColours.count traceColour =
      (steps (automaton.simulate line).trace).toFinset.card := by
    rw [edgeColours_of_draw drawn]
    exact count_traceColour _ areEdges
  refine ⟨fun _ _ => exists_edge_of_follows, highlights_of_draw drawn, ⟨_, ?_, count_eq⟩, ?_⟩
  · intro source target
    rw [List.mem_toFinset, mem_steps_iff]
  · rw [← List.count_eq_zero, count_eq, Finset.card_eq_zero, List.toFinset_eq_empty_iff,
      steps_simulate_eq_nil_iff]

/-- Every run can be drawn with just the edges highlighted that it took, and a trace is refused
for the first state in it that the automaton does not have. -/
theorem exists_showsRun_and_drawsTrace (automaton : Automaton) (title? : Option String) :
    (∀ line, ∃ drawing, draw automaton (automaton.simulate line).trace title? = .ok drawing ∧
      ShowsRun automaton line drawing) ∧
      ∀ trace, DrawsTrace automaton title? trace := by
  constructor
  · intro line
    obtain ⟨drawing, drawn⟩ := exists_draw_simulate automaton title? line
    exact ⟨drawing, drawn, showsRun_of_draw drawn⟩
  · exact drawsTrace automaton title?

example : (draw braided (braided.simulate "abbd").trace none).toOption.map Drawing.edgeColours =
    some [traceColour, edgeColour, traceColour] := by decide

end Acceptor.Diagram
