import Acceptor.Proofs.Definition.Describes
import Acceptor.Proofs.Definition.Grid.Printed

/-!
The table form of a definition describes just the automata that are `Printable`, and each
of them is read back from the text that is printed for it.
-/

namespace Acceptor

namespace Grid

variable {marker : CommentMarker} {automaton : Automaton}

/-! ## What is read can be printed -/

theorem printable_of_describes {draft : Draft} (cellNamed : CellNamed draft)
    (headerNamed : HeaderNamed marker draft.alphabet) (describes : draft.Describes automaton) :
    Printable marker automaton where
  state_isCell := fun state membership =>
    cellNamed.state_isCell state (describes.mem_states_iff.mp membership)
  symbol_not_separator := fun symbol membership => by
    obtain ⟨c, same, separate⟩ :=
      headerNamed.single _ (describes.singleton_mem_alphabet_iff.mp membership)
    rw [String.singleton_inj.mp same]
    exact separate
  not_comment := by
    intro comment
    apply headerNamed.not_comment
    rw [← eraseDups_eq_self headerNamed.nodup, describes.alphabet_eq, List.head?_map, comment]
    rfl

theorem printable_of_loads {text : String} (isTableForm : Draft.IsTableForm marker text)
    (loads : Definition.Loads marker text automaton) : Printable marker automaton := by
  obtain ⟨draft, read, describes⟩ := Definition.loads_iff.mp loads
  rw [Draft.ofText_of_isTableForm isTableForm] at read
  obtain ⟨header, rows, lines, noColon, _⟩ := isTableForm
  have clean : ∀ line ∈ header :: rows, Line.Clean marker line.text := by
    intro line membership
    apply Line.clean_of_mem_significant
    rw [lines]
    exact membership
  obtain ⟨cleanHeader, cleanRows⟩ := List.forall_mem_cons.mp clean
  rw [lines] at read
  obtain ⟨alphabet, readAlphabet, added⟩ := read_eq_ok_iff.mp read
  have headerNamed := headerNamed_of_readHeader cleanHeader noColon readAlphabet
  obtain ⟨cellNamed, sameAlphabet⟩ := cellNamed_of_addLines cleanRows added
  rw [← sameAlphabet] at headerNamed
  exact printable_of_describes cellNamed headerNamed describes

/-! ## What is printed is read back -/

theorem significant_print (printable : Printable marker automaton) :
    Line.significant marker (print automaton).toList =
      ⟨1, printHeader automaton⟩ ::
        Line.numbered 2 (automaton.states.map (printRow automaton)) := by
  have stripHeader : Text.strip (printHeader automaton) = printHeader automaton :=
    strip_intercalate printable.isPlain_of_mem_header
  have stripRows : (automaton.states.map (printRow automaton)).map Text.strip =
      automaton.states.map (printRow automaton) := by
    rw [List.map_map]
    apply List.map_congr_left
    intro state known
    exact strip_intercalate (printable.isPlain_of_mem_row known)
  rw [print, String.toList_ofList, Line.significant_flatMap, List.map_cons, stripHeader,
    stripRows, Line.numbered_cons]
  rw [List.forall_mem_cons, List.forall_mem_map]
  constructor
  · exact isPrinted_printHeader printable
  · intro state known
    exact isPrinted_printRow printable known

def printedRules (automaton : Automaton) (first : Nat) (states : List String) : List Rule :=
  (states.zipIdx first).flatMap fun (state, number) =>
    (printedRow automaton state).rules (automaton.alphabet.map String.singleton) number

def withRows (automaton : Automaton) (first : Nat) (states : List String) (draft : Draft) :
    Draft where
  states := draft.states ++ states
  alphabet := draft.alphabet
  start? := if automaton.start ∈ states then some automaton.start else draft.start?
  accepting := draft.accepting ++ states.filter (· ∈ automaton.accepting)
  rules := draft.rules ++ printedRules automaton first states

theorem addLine_printRow (printable : Printable marker automaton) {state : String}
    (known : state ∈ automaton.states) {draft : Draft}
    (alphabet : draft.alphabet = automaton.alphabet.map String.singleton)
    (fresh : state ∉ draft.states)
    (unstarted : state = automaton.start → draft.start? = none) (number : Nat) :
    addLine draft { number, text := printRow automaton state } =
      .ok (withRows automaton number [state] draft) := by
  refine addLine_eq_ok_iff.mpr ⟨printedRow automaton state, ?_, ⟨fresh, ?_⟩, ?_⟩
  · rw [alphabet, List.length_map]
    exact readRow_printRow printable known
  · rintro ⟨started, second⟩
    rw [unstarted (of_decide_eq_true started)] at second
    contradiction
  · rw [Row.extend, withRows, alphabet]
    congr 1
    · by_cases started : state = automaton.start
      · simp [printedRow, markOf, started]
      · simp [printedRow, markOf, started, Ne.symm started]
    · by_cases accepts : state ∈ automaton.accepting <;>
        simp [printedRow, markOf, accepts]
    · simp [printedRules]

theorem withRows_cons (automaton : Automaton) (first : Nat) (state : String)
    (states : List String) (draft : Draft) :
    withRows automaton (first + 1) states (withRows automaton first [state] draft) =
      withRows automaton first (state :: states) draft := by
  unfold withRows
  congr 1
  · simp
  · by_cases later : automaton.start ∈ states <;> simp [later]
  · rw [List.append_assoc, ← List.filter_append, List.singleton_append]
  · simp [printedRules]

theorem addLines_printRow (printable : Printable marker automaton) {states : List String}
    (distinct : states.Nodup) (known : ∀ state ∈ states, state ∈ automaton.states)
    {draft : Draft} (alphabet : draft.alphabet = automaton.alphabet.map String.singleton)
    (fresh : ∀ state ∈ states, state ∉ draft.states)
    (unstarted : automaton.start ∈ states → draft.start? = none) (first : Nat) :
    Draft.addLines addLine draft (Line.numbered first (states.map (printRow automaton))) =
      .ok (withRows automaton first states draft) := by
  induction states generalizing draft first with
  | nil => simp [Line.numbered, withRows, printedRules]
  | cons state rest inductionHypothesis =>
      obtain ⟨later, distinctRest⟩ := List.nodup_cons.mp distinct
      obtain ⟨stateKnown, restKnown⟩ := List.forall_mem_cons.mp known
      obtain ⟨stateFresh, restFresh⟩ := List.forall_mem_cons.mp fresh
      have added := addLine_printRow printable stateKnown alphabet stateFresh
        (fun started => unstarted (started ▸ List.mem_cons_self)) first
      rw [List.map_cons, Line.numbered_cons, ← withRows_cons]
      apply Draft.addLines_cons_eq_ok_iff.mpr ⟨_, added, ?_⟩
      have sameAlphabet : (withRows automaton first [state] draft).alphabet =
          automaton.alphabet.map String.singleton := alphabet
      apply inductionHypothesis distinctRest restKnown sameAlphabet
      · intro other inRest inBoth
        rcases List.mem_append.mp inBoth with earlier | same
        · exact restFresh other inRest earlier
        · exact later (List.mem_singleton.mp same ▸ inRest)
      · intro inRest
        have notFirst : automaton.start ∉ [state] := fun same =>
          later (List.mem_singleton.mp same ▸ inRest)
        rw [withRows, if_neg notFirst]
        exact unstarted (List.mem_cons_of_mem state inRest)

def printedDraft (automaton : Automaton) : Draft :=
  withRows automaton 2 automaton.states
    { alphabet := automaton.alphabet.map String.singleton }

theorem mem_printedRules_iff (printable : Printable marker automaton) {first : Nat}
    {states : List String} {rule : Rule} :
    rule ∈ printedRules automaton first states ↔ ∃ state number symbol target,
      (state, number) ∈ states.zipIdx first ∧ automaton.next? state symbol = some target ∧
        rule = { source := state, symbol := String.singleton symbol, target,
                 line? := some number } := by
  unfold printedRules
  simp only [List.mem_flatMap, Prod.exists, mem_rules_printedRow_iff printable]
  constructor
  · rintro ⟨state, number, inNumbered, symbol, target, found, rfl⟩
    exact ⟨state, number, symbol, target, inNumbered, found, rfl⟩
  · rintro ⟨state, number, symbol, target, inNumbered, found, rfl⟩
    exact ⟨state, number, inNumbered, symbol, target, found, rfl⟩

theorem describes_printedDraft (printable : Printable marker automaton) :
    (printedDraft automaton).Describes automaton where
  states_eq := eraseDups_eq_self automaton.states_nodup
  alphabet_eq := eraseDups_eq_self (nodup_map_singleton automaton.alphabet_nodup)
  start_eq := if_pos automaton.start_mem
  mem_accepting_iff := by
    intro state
    simp only [printedDraft, withRows, List.nil_append, List.mem_filter, decide_eq_true_eq]
    exact and_iff_right_of_imp (automaton.accepting_subset state)
  single := by
    intro rule isRule
    obtain ⟨_, _, symbol, _, _, _, rfl⟩ := (mem_printedRules_iff printable).mp isRule
    exact ⟨symbol, rfl⟩
  next?_eq_some_iff := by
    intro state symbol target
    constructor
    · intro found
      obtain ⟨known, _⟩ := Automaton.endpoints_mem_of_next? found
      obtain ⟨place, bound, equality⟩ := List.mem_iff_getElem.mp known
      have inNumbered : (state, 2 + place) ∈ automaton.states.zipIdx 2 := by
        rw [List.mk_add_mem_zipIdx_iff_getElem?, List.getElem?_eq_some_iff]
        exact ⟨bound, equality⟩
      exact ⟨_, (mem_printedRules_iff printable).mpr
        ⟨state, 2 + place, symbol, target, inNumbered, found, rfl⟩, rfl, rfl, rfl⟩
    · rintro ⟨rule, isRule, rfl, text, rfl⟩
      obtain ⟨_, _, other, _, _, found, rfl⟩ := (mem_printedRules_iff printable).mp isRule
      rw [← String.singleton_inj.mp text]
      exact found

theorem isTableForm_print (printable : Printable marker automaton) :
    Draft.IsTableForm marker (print automaton) :=
  ⟨_, _, significant_print printable, colon_not_mem_printHeader printable,
    Line.cutAtArrow?_eq_none_iff.mp (cutAtArrow?_printHeader automaton)⟩

theorem loads_print (printable : Printable marker automaton) :
    Definition.Loads marker (print automaton) automaton := by
  refine Definition.loads_iff.mpr ⟨printedDraft automaton, ?_, describes_printedDraft printable⟩
  rw [Draft.ofText_of_isTableForm (isTableForm_print printable), significant_print printable]
  refine read_eq_ok_iff.mpr ⟨_, readHeader_printHeader printable, ?_⟩
  exact addLines_printRow printable automaton.states_nodup (fun _ known => known) rfl
    (by simp) (fun _ => rfl) 2

/-- An automaton has a definition in table form exactly if it is printable, and then its
printed text is one. -/
theorem exists_tableForm_iff_printable (marker : CommentMarker) (automaton : Automaton) :
    ((∃ text, Draft.IsTableForm marker text ∧ Definition.Loads marker text automaton) ↔
        Printable marker automaton) ∧
      (Printable marker automaton →
        Draft.IsTableForm marker (print automaton) ∧
          Definition.Loads marker (print automaton) automaton) := by
  have printed : Printable marker automaton →
      Draft.IsTableForm marker (print automaton) ∧
        Definition.Loads marker (print automaton) automaton := by
    intro printable
    exact ⟨isTableForm_print printable, loads_print printable⟩
  refine ⟨⟨?_, fun printable => ⟨_, printed printable⟩⟩, printed⟩
  rintro ⟨text, isTableForm, loads⟩
  exact printable_of_loads isTableForm loads

end Grid

end Acceptor
