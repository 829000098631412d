import Mathlib.Data.List.Nodup
import Acceptor.Automaton.Diagram
import Acceptor.Proofs.Automaton.Build

/-!
A state diagram loses nothing of the transitions that it is made of.

Its edges are found in one pass over the transitions, each symbol being added to the edge
between its two states.  Read back from the edges, the symbols are the transitions again, so
that automata with one diagram differ in the order of their transitions at most.
-/

namespace Acceptor

/-! ## Edges and transitions -/

def Edge.ends (edge : Edge) : String × String :=
  (edge.source, edge.target)

def Edge.moves (edge : Edge) : List ((String × Char) × String) :=
  edge.symbols.map fun symbol => ((edge.source, symbol), edge.target)

namespace Diagram

def moves (diagram : Diagram) : List ((String × Char) × String) :=
  diagram.edges.flatMap Edge.moves

/-- The symbols of those of some transitions that are between two states. -/
def symbolsBetween (transitions : List ((String × Char) × String)) (source target : String) :
    List Char :=
  (transitions.filter fun transition => transition.1.1 = source ∧ transition.2 = target).map
    fun transition => transition.1.2

/-- The diagram shows the states and the transitions of an automaton, all of them and each
of them once. -/
structure Depicts (automaton : Automaton) (diagram : Diagram) : Prop where
  nodes_eq : diagram.nodes = automaton.states
  ends_mem : ∀ edge ∈ diagram.edges, edge.source ∈ diagram.nodes ∧ edge.target ∈ diagram.nodes
  ends_nodup : (diagram.edges.map Edge.ends).Nodup
  exists_edge_iff : ∀ source target, (∃ edge ∈ diagram.edges, edge.ends = (source, target)) ↔
    ∃ symbol, automaton.next? source symbol = some target
  symbols_eq : ∀ edge ∈ diagram.edges,
    edge.symbols = symbolsBetween automaton.transitions.entries edge.source edge.target
  mem_symbols_iff : ∀ edge ∈ diagram.edges, ∀ symbol,
    symbol ∈ edge.symbols ↔ automaton.next? edge.source symbol = some edge.target
  symbols_nodup : ∀ edge ∈ diagram.edges, edge.symbols.Nodup
  length_eq : (diagram.edges.flatMap Edge.symbols).length =
    automaton.transitions.entries.length
  eq_of_mem_symbols : ∀ edge ∈ diagram.edges, ∀ other ∈ diagram.edges,
    edge.source = other.source → ∀ symbol ∈ edge.symbols, symbol ∈ other.symbols → edge = other
  agrees : (OrderedMap.ofList diagram.moves).Agrees automaton.transitions

/-- The diagrams have the same nodes and the same edges, with the same symbols on them but for
their order. -/
structure SameEdges (left right : Diagram) : Prop where
  nodes_eq : left.nodes = right.nodes
  mem_ends_iff : ∀ ends, ends ∈ left.edges.map Edge.ends ↔ ends ∈ right.edges.map Edge.ends
  perm : ∀ edge ∈ left.edges, ∀ other ∈ right.edges, edge.ends = other.ends →
    edge.symbols.Perm other.symbols

/-! ## The pass over the transitions -/

variable {automaton other : Automaton} {edge : Edge} {source target : String} {symbol : Char}
  {symbols : List Char}

theorem get?_addTransition (edges : OrderedMap (String × String) (List Char))
    (transition : (String × Char) × String) :
    (addTransition edges transition).get? (source, target) =
      if transition.1.1 = source ∧ transition.2 = target then
        some ((edges.get? (source, target)).getD [] ++ [transition.1.2])
      else edges.get? (source, target) := by
  simp only [addTransition, OrderedMap.get?_insert, Prod.mk.injEq]
  split
  next same => rw [same.1, same.2]
  · rfl

/-- A pass adds the symbols between two states to the edge between them, and makes no edge
where there are none. -/
theorem get?_foldl_addTransition (edges : OrderedMap (String × String) (List Char))
    (transitions : List ((String × Char) × String)) :
    (transitions.foldl addTransition edges).get? (source, target) =
      if symbolsBetween transitions source target = [] then edges.get? (source, target)
      else some ((edges.get? (source, target)).getD [] ++
        symbolsBetween transitions source target) := by
  induction transitions generalizing edges with
  | nil => rfl
  | cons transition rest inductionHypothesis =>
      rw [List.foldl_cons, inductionHypothesis, get?_addTransition]
      -- The first transition makes the edge or finds it made; the rest adds to what it left.
      by_cases here : transition.1.1 = source ∧ transition.2 = target
      · have added : symbolsBetween (transition :: rest) source target =
            transition.1.2 :: symbolsBetween rest source target := by
          simp [symbolsBetween, here]
        rw [if_pos here, added, if_neg (List.cons_ne_nil _ _)]
        split
        next noSymbols => rw [noSymbols]
        · simp
      · have unchanged : symbolsBetween (transition :: rest) source target =
            symbolsBetween rest source target := by
          simp [symbolsBetween, here]
        rw [if_neg here, unchanged]

theorem get?_edgeMap_eq_some_iff :
    (edgeMap automaton).get? (source, target) = some symbols ↔
      symbols = symbolsBetween automaton.transitions.entries source target ∧ symbols ≠ [] := by
  rw [edgeMap, get?_foldl_addTransition, OrderedMap.get?_empty]
  split
  next noSymbols => simp [noSymbols]
  next someSymbols =>
    rw [Option.getD_none, List.nil_append, Option.some.injEq]
    constructor
    · rintro rfl
      exact ⟨rfl, someSymbols⟩
    · exact fun same => same.1.symm

theorem mem_symbolsBetween_iff :
    symbol ∈ symbolsBetween automaton.transitions.entries source target ↔
      automaton.next? source symbol = some target := by
  rw [Automaton.next?, OrderedMap.get?_eq_some_iff, symbolsBetween, List.mem_map]
  constructor
  · rintro ⟨⟨⟨first, found⟩, last⟩, membership, rfl⟩
    obtain ⟨present, same⟩ := List.mem_filter.mp membership
    obtain ⟨rfl, rfl⟩ := of_decide_eq_true same
    exact present
  · intro present
    exact ⟨_, List.mem_filter.mpr ⟨present, decide_eq_true ⟨rfl, rfl⟩⟩, rfl⟩

theorem symbolsBetween_nodup :
    (symbolsBetween automaton.transitions.entries source target).Nodup := by
  -- Between two states there is one transition for each symbol, as all have the same source.
  have distinct : (automaton.transitions.entries.map Prod.fst).Nodup :=
    automaton.transitions.keys_nodup
  rw [List.Nodup, List.pairwise_map] at distinct
  rw [symbolsBetween, List.Nodup, List.pairwise_map]
  refine (distinct.sublist List.filter_sublist).imp_of_mem ?_
  intro left right isLeft isRight different same
  have leftSource := (of_decide_eq_true (List.mem_filter.mp isLeft).2).1
  have rightSource := (of_decide_eq_true (List.mem_filter.mp isRight).2).1
  exact different (Prod.ext (leftSource.trans rightSource.symm) same)

/-! ## Edges -/

theorem mem_edges_iff :
    edge ∈ (ofAutomaton automaton).edges ↔
      edge.symbols = symbolsBetween automaton.transitions.entries edge.source edge.target ∧
        edge.symbols ≠ [] := by
  obtain ⟨source, target, symbols⟩ := edge
  rw [← get?_edgeMap_eq_some_iff, OrderedMap.get?_eq_some_iff, ofAutomaton, List.mem_flatMap]
  constructor
  · rintro ⟨state, _, listed⟩
    obtain ⟨⟨ends, found⟩, kept, same⟩ := List.mem_map.mp listed
    cases same
    exact (List.mem_filter.mp kept).1
  · intro present
    -- The edges are listed by the states they lead from, so the source must be one of them.
    have known : source ∈ automaton.states := by
      obtain ⟨between, nonempty⟩ := get?_edgeMap_eq_some_iff.mp
        ((OrderedMap.get?_eq_some_iff _).mpr present)
      rw [between] at nonempty
      obtain ⟨symbol, isSymbol⟩ := List.exists_mem_of_ne_nil _ nonempty
      rw [mem_symbolsBetween_iff, Automaton.next?, OrderedMap.get?_eq_some_iff] at isSymbol
      exact automaton.source_mem _ isSymbol
    refine ⟨source, known, List.mem_map.mpr ⟨((source, target), symbols), ?_, rfl⟩⟩
    exact List.mem_filter.mpr ⟨present, decide_eq_true rfl⟩

theorem mem_symbols_iff (isEdge : edge ∈ (ofAutomaton automaton).edges) :
    symbol ∈ edge.symbols ↔ automaton.next? edge.source symbol = some edge.target := by
  rw [(mem_edges_iff.mp isEdge).1, mem_symbolsBetween_iff]

/-- Every edge comes of some transition. -/
theorem exists_next?_of_mem_edges (isEdge : edge ∈ (ofAutomaton automaton).edges) :
    ∃ symbol, automaton.next? edge.source symbol = some edge.target := by
  obtain ⟨symbol, isSymbol⟩ := List.exists_mem_of_ne_nil _ (mem_edges_iff.mp isEdge).2
  exact ⟨symbol, (mem_symbols_iff isEdge).mp isSymbol⟩

theorem exists_edge_of_next? (next : automaton.next? source symbol = some target) :
    ∃ edge ∈ (ofAutomaton automaton).edges, edge.ends = (source, target) ∧
      symbol ∈ edge.symbols := by
  have isSymbol := mem_symbolsBetween_iff.mpr next
  exact ⟨⟨source, target, _⟩, mem_edges_iff.mpr ⟨rfl, List.ne_nil_of_mem isSymbol⟩, rfl, isSymbol⟩

theorem ends_nodup : ((ofAutomaton automaton).edges.map Edge.ends).Nodup := by
  have ends_eq : (ofAutomaton automaton).edges.map Edge.ends =
      automaton.states.flatMap fun state =>
        ((edgeMap automaton).entries.filter fun edge => edge.1.1 = state).map Prod.fst := by
    simp only [ofAutomaton, List.map_flatMap, List.map_map]
    rfl
  rw [ends_eq, List.nodup_flatMap]
  constructor
  · intro state _
    exact (edgeMap automaton).keys_nodup.sublist (List.filter_sublist.map Prod.fst)
  · refine automaton.states_nodup.imp fun different ends isLeft isRight => different ?_
    obtain ⟨_, leftKept, rfl⟩ := List.mem_map.mp isLeft
    obtain ⟨_, rightKept, same⟩ := List.mem_map.mp isRight
    have left := of_decide_eq_true (List.mem_filter.mp leftKept).2
    have right := of_decide_eq_true (List.mem_filter.mp rightKept).2
    rw [← left, ← right, same]

/-- An edge is known by its ends. -/
theorem eq_of_ends_eq {edge other : Edge} (isEdge : edge ∈ (ofAutomaton automaton).edges)
    (isOther : other ∈ (ofAutomaton automaton).edges) (same : edge.ends = other.ends) :
    edge = other :=
  List.inj_on_of_nodup_map ends_nodup isEdge isOther same

/-! ## Moves -/

theorem mem_moves_iff :
    ((source, symbol), target) ∈ (ofAutomaton automaton).moves ↔
      automaton.next? source symbol = some target := by
  rw [moves, List.mem_flatMap]
  constructor
  · rintro ⟨edge, isEdge, isMove⟩
    obtain ⟨_, isSymbol, same⟩ := List.mem_map.mp isMove
    cases same
    exact (mem_symbols_iff isEdge).mp isSymbol
  · intro next
    obtain ⟨edge, isEdge, ends, isSymbol⟩ := exists_edge_of_next? next
    obtain ⟨rfl, rfl⟩ := Prod.mk.inj ends
    exact ⟨edge, isEdge, List.mem_map_of_mem isSymbol⟩

theorem moves_nodup : (ofAutomaton automaton).moves.Nodup := by
  rw [moves, List.nodup_flatMap]
  constructor
  · intro edge isEdge
    rw [Edge.moves, (mem_edges_iff.mp isEdge).1]
    exact symbolsBetween_nodup.map fun _ _ same => (Prod.mk.inj (Prod.mk.inj same).1).2
  · refine (List.pairwise_map.mp ends_nodup).imp fun different move isLeft isRight => different ?_
    obtain ⟨_, _, rfl⟩ := List.mem_map.mp isLeft
    obtain ⟨_, _, same⟩ := List.mem_map.mp isRight
    obtain ⟨keys, targets⟩ := Prod.mk.inj same
    exact Prod.ext (Prod.mk.inj keys).1.symm targets.symm

/-- The moves of the edges are the transitions, in another order. -/
theorem moves_perm (automaton : Automaton) :
    (ofAutomaton automaton).moves.Perm automaton.transitions.entries := by
  have distinct := List.Nodup.of_map Prod.fst automaton.transitions.keys_nodup
  rw [List.perm_ext_iff_of_nodup moves_nodup distinct]
  rintro ⟨⟨source, symbol⟩, target⟩
  rw [mem_moves_iff, Automaton.next?, OrderedMap.get?_eq_some_iff]

theorem agrees_moves :
    (OrderedMap.ofList (ofAutomaton automaton).moves).Agrees automaton.transitions := by
  have consistent : ∀ move ∈ (ofAutomaton automaton).moves,
      ∀ other ∈ (ofAutomaton automaton).moves, move.1 = other.1 → move.2 = other.2 := by
    rintro ⟨⟨source, symbol⟩, target⟩ isMove ⟨_, last⟩ isOther rfl
    rw [mem_moves_iff] at isMove isOther
    exact Option.some.inj (isMove.symm.trans isOther)
  rintro ⟨source, symbol⟩
  refine Option.ext fun target => ?_
  rw [OrderedMap.get?_ofList_eq_some_iff consistent, mem_moves_iff, Automaton.next?]

/-! ## Diagrams -/

theorem depicts_ofAutomaton (automaton : Automaton) :
    Depicts automaton (ofAutomaton automaton) where
  nodes_eq := rfl
  ends_mem := by
    intro edge isEdge
    obtain ⟨symbol, next⟩ := exists_next?_of_mem_edges isEdge
    have transition := (OrderedMap.get?_eq_some_iff _).mp next
    exact ⟨automaton.source_mem _ transition, automaton.target_mem _ transition⟩
  ends_nodup := ends_nodup
  exists_edge_iff := by
    intro source target
    constructor
    · rintro ⟨edge, isEdge, ends⟩
      obtain ⟨rfl, rfl⟩ := Prod.mk.inj ends
      exact exists_next?_of_mem_edges isEdge
    · rintro ⟨symbol, next⟩
      obtain ⟨edge, isEdge, ends, _⟩ := exists_edge_of_next? next
      exact ⟨edge, isEdge, ends⟩
  symbols_eq := fun _ isEdge => (mem_edges_iff.mp isEdge).1
  mem_symbols_iff := fun _ isEdge _ => mem_symbols_iff isEdge
  symbols_nodup := fun _ isEdge => (mem_edges_iff.mp isEdge).1 ▸ symbolsBetween_nodup
  length_eq := by
    rw [← (moves_perm automaton).length_eq]
    simp only [moves, Edge.moves, List.length_flatMap, List.length_map]
  eq_of_mem_symbols := by
    intro edge isEdge other isOther source symbol isSymbol inOther
    rw [mem_symbols_iff isEdge, source] at isSymbol
    rw [mem_symbols_iff isOther, isSymbol, Option.some.injEq] at inOther
    exact eq_of_ends_eq isEdge isOther (Prod.ext source inOther)
  agrees := agrees_moves

theorem SameEdges.symm {left right : Diagram} (same : SameEdges left right) :
    SameEdges right left where
  nodes_eq := same.nodes_eq.symm
  mem_ends_iff := fun ends => (same.mem_ends_iff ends).symm
  perm := fun edge isEdge other isOther ends =>
    (same.perm other isOther edge isEdge ends.symm).symm

theorem SameEdges.next? (same : SameEdges (ofAutomaton automaton) (ofAutomaton other))
    (next : automaton.next? source symbol = some target) :
    other.next? source symbol = some target := by
  obtain ⟨edge, isEdge, ends, isSymbol⟩ := exists_edge_of_next? next
  obtain ⟨found, isFound, sameEnds⟩ :=
    List.mem_map.mp ((same.mem_ends_iff _).mp (List.mem_map_of_mem isEdge))
  have inFound := (same.perm edge isEdge found isFound sameEnds.symm).mem_iff.mp isSymbol
  obtain ⟨rfl, rfl⟩ := Prod.mk.inj (sameEnds.trans ends)
  exact (mem_symbols_iff isFound).mp inFound

theorem mem_ends_iff :
    (source, target) ∈ (ofAutomaton automaton).edges.map Edge.ends ↔
      ∃ symbol, automaton.next? source symbol = some target := by
  rw [List.mem_map, (depicts_ofAutomaton automaton).exists_edge_iff]

theorem sameEdges_of_agrees (states : automaton.states = other.states)
    (agree : automaton.transitions.Agrees other.transitions) :
    SameEdges (ofAutomaton automaton) (ofAutomaton other) where
  nodes_eq := states
  mem_ends_iff := by
    rintro ⟨source, target⟩
    simp only [mem_ends_iff, Automaton.next?, agree _]
  perm := by
    intro edge isEdge found isFound ends
    obtain ⟨sources, targets⟩ := Prod.mk.inj ends
    have distinct := (depicts_ofAutomaton automaton).symbols_nodup edge isEdge
    have othersDistinct := (depicts_ofAutomaton other).symbols_nodup found isFound
    rw [List.perm_ext_iff_of_nodup distinct othersDistinct]
    intro symbol
    rw [mem_symbols_iff isEdge, mem_symbols_iff isFound, Automaton.next?, Automaton.next?, agree,
      sources, targets]

theorem sameEdges_iff :
    SameEdges (ofAutomaton automaton) (ofAutomaton other) ↔
      automaton.states = other.states ∧ automaton.transitions.Agrees other.transitions := by
  constructor
  · intro same
    refine ⟨same.nodes_eq, ?_⟩
    rintro ⟨source, symbol⟩
    exact Option.ext fun target => ⟨same.next?, same.symm.next?⟩
  · rintro ⟨states, agree⟩
    exact sameEdges_of_agrees states agree

/-- The diagram of an automaton shows all of its transitions, and automata have the same diagram
exactly if they have the same states and transitions, in whatever order the latter came. -/
theorem depicts_ofAutomaton_and_sameEdges_iff (automaton : Automaton) :
    Depicts automaton (ofAutomaton automaton) ∧
      ∀ other, SameEdges (ofAutomaton automaton) (ofAutomaton other) ↔
        automaton.states = other.states ∧ automaton.transitions.Agrees other.transitions :=
  ⟨depicts_ofAutomaton automaton, fun _ => sameEdges_iff⟩

/-- An automaton with loops, and with symbols that share an edge though their transitions do not
follow one another. -/
def braided : Automaton where
  states := ["s", "t"]
  alphabet := ['a', 'b', 'c']
  transitions := .ofList [(("t", 'b'), "t"), (("s", 'a'), "t"), (("s", 'b'), "s"),
    (("t", 'a'), "t"), (("s", 'c'), "t")]
  start := "s"
  accepting := ["t"]
  states_nodup := by decide
  alphabet_nodup := by decide
  alphabet_ne_nil := by decide
  start_mem := by decide
  accepting_subset := by decide
  source_mem := by decide
  symbol_mem := by decide
  target_mem := by decide

example : (ofAutomaton braided).edges = [
    { source := "s", target := "t", symbols := ['a', 'c'] },
    { source := "s", target := "s", symbols := ['b'] },
    { source := "t", target := "t", symbols := ['b', 'a'] }] := by decide

end Diagram

end Acceptor
