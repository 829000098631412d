import Acceptor.Proofs.Definition.Describes
import Acceptor.Proofs.Definition.Keyword.Printed
import Acceptor.Proofs.Definition.Keyword.Reader

/-!
The keyword form of a definition describes just the automata that are `Printable`, and each
of them is read back from the text that is printed for it.
-/

namespace Acceptor

namespace Keyword

variable {marker : CommentMarker} {automaton : Automaton} {accepting : List String}

/-! ## What is read can be printed -/

theorem printable_of_describes {draft : Draft} (wellNamed : WellNamed draft)
    (describes : draft.Describes automaton) : Printable automaton where
  state_isItem := fun state membership =>
    wellNamed.state_isItem state (describes.mem_states_iff.mp membership)
  symbol_not_separator := fun symbol membership => by
    have isItem :=
      wellNamed.symbol_isItem _ (describes.singleton_mem_alphabet_iff.mp membership)
    exact isItem.not_separator symbol (by simp)

theorem printable_of_loads {text : String} (isKeywordForm : Draft.IsKeywordForm marker text)
    (loads : Definition.Loads marker text automaton) : Printable automaton := by
  obtain ⟨draft, read, describes⟩ := Definition.loads_iff.mp loads
  rw [Draft.ofText_of_isKeywordForm isKeywordForm] at read
  exact printable_of_describes (wellNamed_of_read read) describes

/-! ## What is printed is read back -/

theorem Printable.areItems (printable : Printable automaton)
    {transition : (String × Char) × String}
    (membership : transition ∈ automaton.transitions.entries) : AreItems transition where
  source := printable.state_isItem _ (automaton.source_mem transition membership)
  symbol := by
    obtain ⟨notComma, visible⟩ :=
      printable.symbol_not_separator _ (automaton.symbol_mem transition membership)
    exact isItem_singleton notComma visible
  target := printable.state_isItem _ (automaton.target_mem transition membership)

/-- A section that is printed: the word that opens it, and its items. -/
structure PrintedSection where
  word : String
  kind : Section
  items : List String

def PrintedSection.row (part : PrintedSection) : List Char :=
  printDeclaration part.word part.items

/-- The line of the section is no comment, and is read as the section. -/
structure PrintedSection.IsReadable (marker : CommentMarker) (part : PrintedSection) :
    Prop where
  opens : Opens part.word part.kind
  not_comment : part.word.toList.head? ≠ some marker.char
  areItems : ∀ item ∈ part.items, IsItem item.toList

def printedSections (accepting : List String) (automaton : Automaton) : List PrintedSection :=
  [⟨"states", .states, automaton.states⟩,
    ⟨"alphabet", .alphabet, automaton.alphabet.map String.singleton⟩,
    ⟨"start", .start, [automaton.start]⟩, ⟨"accept", .accepting, accepting⟩]

theorem printLines_eq (marker : CommentMarker) (accepting : List String)
    (automaton : Automaton) :
    printLines marker accepting automaton =
      (printedSections accepting automaton).map PrintedSection.row ++
        automaton.transitions.entries.map (printRule marker) := rfl

theorem Printable.isReadable (printable : Printable automaton) (notS : marker.char ≠ 's')
    (notA : marker.char ≠ 'a') (known : ∀ state ∈ accepting, state ∈ automaton.accepting)
    {part : PrintedSection} (printed : part ∈ printedSections accepting automaton) :
    part.IsReadable marker := by
  have headS (word : String) (head : word.toList.head? = some 's') :
      word.toList.head? ≠ some marker.char := by
    rw [head]
    exact fun equality => notS (Option.some.inj equality).symm
  have headA (word : String) (head : word.toList.head? = some 'a') :
      word.toList.head? ≠ some marker.char := by
    rw [head]
    exact fun equality => notA (Option.some.inj equality).symm
  simp only [printedSections, List.mem_cons, List.not_mem_nil, or_false] at printed
  rcases printed with rfl | rfl | rfl | rfl
  · exact ⟨opens_states, headS "states" (by decide), printable.state_isItem⟩
  · refine ⟨opens_alphabet, headA "alphabet" (by decide), fun item membership => ?_⟩
    obtain ⟨symbol, inAlphabet, rfl⟩ := List.mem_map.mp membership
    obtain ⟨notComma, visible⟩ := printable.symbol_not_separator symbol inAlphabet
    simpa using isItem_singleton notComma visible
  · refine ⟨opens_start, headS "start" (by decide), fun item membership => ?_⟩
    rw [List.mem_singleton.mp membership]
    exact printable.state_isItem _ automaton.start_mem
  · refine ⟨opens_accept, headA "accept" (by decide), fun item membership => ?_⟩
    exact printable.state_isItem item (automaton.accepting_subset item (known item membership))

theorem PrintedSection.IsReadable.isPrinted {part : PrintedSection}
    (readable : part.IsReadable marker) : Line.IsPrinted marker part.row := by
  obtain ⟨c, rest, word⟩ := List.exists_cons_of_ne_nil readable.opens.ne_nil
  have head : (Text.strip part.row).head? = some c := by
    rw [PrintedSection.row, strip_printDeclaration readable.opens, word]
    rfl
  apply Line.isPrinted_of_forall _ head
  · rintro rfl
    apply readable.not_comment
    rw [word]
    rfl
  · intro d membership
    exact not_line_end_of_mem_printDeclaration readable.opens readable.areItems membership

theorem AreItems.isPrinted {transition : (String × Char) × String}
    (areItems : AreItems transition) : Line.IsPrinted marker (printRule marker transition) := by
  obtain ⟨c, head, _, notComment⟩ : ∃ c, (printRule marker transition).head? = some c ∧
    Text.isBlank c = false ∧ c ≠ marker.char := head?_printRule areItems
  rw [← strip_printRule areItems] at head
  exact Line.isPrinted_of_forall (fun _ => not_line_end_of_mem_printRule areItems) head notComment

theorem significant_print (printable : Printable automaton) (notS : marker.char ≠ 's')
    (notA : marker.char ≠ 'a') (known : ∀ state ∈ accepting, state ∈ automaton.accepting) :
    Line.significant marker (print marker accepting automaton).toList =
      Line.numbered 1 (((printedSections accepting automaton).map fun part =>
        Text.strip part.row) ++ automaton.transitions.entries.map (printRule marker)) := by
  have rules : (automaton.transitions.entries.map (printRule marker)).map Text.strip =
      automaton.transitions.entries.map (printRule marker) := by
    rw [List.map_map]
    apply List.map_congr_left
    intro transition membership
    exact strip_printRule (printable.areItems membership)
  rw [print, String.toList_ofList, Line.significant_flatMap, printLines_eq, List.map_append,
    rules, List.map_map]
  · rfl
  · intro row inRows
    rw [printLines_eq] at inRows
    rcases List.mem_append.mp inRows with inSections | inRules
    · obtain ⟨part, printed, rfl⟩ := List.mem_map.mp inSections
      exact (printable.isReadable notS notA known printed).isPrinted
    · obtain ⟨transition, membership, rfl⟩ := List.mem_map.mp inRules
      exact (printable.areItems membership).isPrinted

theorem addLines_numbered_cons {draft : Draft} {number : Nat} {row : List Char}
    {rest : List (List Char)} {statement : Statement}
    (read : readStatement row = .ok statement) (fits : statement.Fits draft) :
    Draft.addLines addLine draft (Line.numbered number (row :: rest)) =
      Draft.addLines addLine (statement.extend draft number) (Line.numbered (number + 1) rest) := by
  have added : addLine draft { number, text := row } = .ok (statement.extend draft number) :=
    addLine_eq_ok_iff.mpr ⟨statement, read, fits, rfl⟩
  rw [Line.numbered_cons, Draft.addLines, List.foldlM_cons, added]
  rfl

/-- The rules that transitions are printed as, from some line on. -/
def printedRules (first : Nat) (transitions : List ((String × Char) × String)) : List Rule :=
  (transitions.zipIdx first).map fun (((source, symbol), target), number) =>
    { source, symbol := String.singleton symbol, target, line? := some number }

theorem addLines_printRule {transitions : List ((String × Char) × String)}
    (areItems : ∀ transition ∈ transitions, AreItems transition) (draft : Draft)
    (first : Nat) :
    Draft.addLines addLine draft (Line.numbered first (transitions.map (printRule marker))) =
      .ok { draft with rules := draft.rules ++ printedRules first transitions } := by
  induction transitions generalizing draft first with
  | nil => simp [Line.numbered, printedRules]
  | cons transition rest inductionHypothesis =>
      rw [List.map_cons, addLines_numbered_cons
        (readStatement_printRule (areItems transition List.mem_cons_self)) trivial,
        inductionHypothesis fun other membership =>
          areItems other (List.mem_cons_of_mem transition membership)]
      simp [Statement.extend, printedRules]

def printedDraft (accepting : List String) (automaton : Automaton) : Draft where
  states := automaton.states
  alphabet := automaton.alphabet.map String.singleton
  start? := some automaton.start
  accepting := accepting
  rules := printedRules 5 automaton.transitions.entries

theorem describes_printedDraft
    (mem_accepting_iff : ∀ state, state ∈ accepting ↔ state ∈ automaton.accepting) :
    (printedDraft accepting automaton).Describes automaton := by
  have isTransition : ∀ state symbol target,
      (∃ rule ∈ printedRules 5 automaton.transitions.entries, rule.source = state ∧
        rule.symbol = String.singleton symbol ∧ rule.target = target) ↔
          ((state, symbol), target) ∈ automaton.transitions.entries := by
    intro state symbol target
    constructor
    · rintro ⟨rule, membership, rfl, text, rfl⟩
      obtain ⟨⟨⟨⟨source, other⟩, last⟩, number⟩, inNumbered, rfl⟩ := List.mem_map.mp membership
      rw [String.singleton_inj] at text
      rw [← text]
      exact List.fst_mem_of_mem_zipIdx inNumbered
    · intro membership
      obtain ⟨place, bound, equality⟩ := List.mem_iff_getElem.mp membership
      refine ⟨_, List.mem_map.mpr ⟨(((state, symbol), target), 5 + place), ?_, rfl⟩,
        rfl, rfl, rfl⟩
      rw [List.mk_add_mem_zipIdx_iff_getElem?, List.getElem?_eq_some_iff]
      exact ⟨bound, equality⟩
  exact {
    states_eq := eraseDups_eq_self automaton.states_nodup
    alphabet_eq := by
      apply eraseDups_eq_self
      exact nodup_map_singleton automaton.alphabet_nodup
    start_eq := rfl
    mem_accepting_iff
    single := by
      intro rule membership
      obtain ⟨⟨⟨⟨source, symbol⟩, target⟩, number⟩, _, rfl⟩ := List.mem_map.mp membership
      exact ⟨symbol, rfl⟩
    next?_eq_some_iff := by
      intro state symbol target
      rw [Automaton.next?, OrderedMap.get?_eq_some_iff]
      exact (isTransition state symbol target).symm }

theorem isKeywordForm_print (printable : Printable automaton) (notS : marker.char ≠ 's')
    (notA : marker.char ≠ 'a') (known : ∀ state ∈ accepting, state ∈ automaton.accepting) :
    Draft.IsKeywordForm marker (print marker accepting automaton) := by
  refine ⟨_, _, significant_print printable notS notA known, Or.inl ?_⟩
  have opened := strip_printDeclaration opens_states automaton.states
  change ':' ∈ Text.strip (printDeclaration "states" automaton.states)
  rw [opened]
  simp

theorem read_print (printable : Printable automaton) (notS : marker.char ≠ 's')
    (notA : marker.char ≠ 'a') (distinct : accepting.Nodup)
    (known : ∀ state ∈ accepting, state ∈ automaton.accepting) :
    read (Line.significant marker (print marker accepting automaton).toList) =
      .ok (printedDraft accepting automaton) := by
  have readable : ∀ part ∈ printedSections accepting automaton, part.IsReadable marker :=
    fun part => printable.isReadable notS notA known
  have declared : ∀ part ∈ printedSections accepting automaton,
      readStatement (Text.strip part.row) = readDeclaration part.kind part.items :=
    fun part printed => readStatement_printDeclaration (readable part printed).opens
      (readable part printed).areItems
  simp only [printedSections, List.forall_mem_cons] at declared
  obtain ⟨states, alphabet, start, accept, _⟩ := declared
  have alphabetRead : readDeclaration .alphabet (automaton.alphabet.map String.singleton) =
      .ok (.declare .alphabet (automaton.alphabet.map String.singleton)) := by
    refine readDeclaration_eq_ok_iff.mpr ⟨rfl, fun _ item membership => ?_⟩
    obtain ⟨symbol, _, rfl⟩ := List.mem_map.mp membership
    simp
  rw [significant_print printable notS notA known, printedSections, List.map_cons,
    List.map_cons, List.map_cons, List.map_cons, List.map_nil, List.cons_append,
    List.cons_append, List.cons_append, List.cons_append, List.nil_append, read,
    addLines_numbered_cons states ⟨automaton.states_nodup, by simp⟩,
    addLines_numbered_cons (alphabet.trans alphabetRead)
      ⟨nodup_map_singleton automaton.alphabet_nodup, by simp [Statement.extend]⟩,
    addLines_numbered_cons start ⟨rfl, automaton.start, rfl⟩,
    addLines_numbered_cons accept ⟨distinct, by simp [Statement.extend]⟩,
    addLines_printRule fun transition => printable.areItems]
  simp [Statement.extend, printedDraft]

theorem loads_print (printable : Printable automaton) (notS : marker.char ≠ 's')
    (notA : marker.char ≠ 'a') (distinct : accepting.Nodup)
    (mem_accepting_iff : ∀ state, state ∈ accepting ↔ state ∈ automaton.accepting) :
    Definition.Loads marker (print marker accepting automaton) automaton := by
  have known : ∀ state ∈ accepting, state ∈ automaton.accepting := fun state =>
    (mem_accepting_iff state).mp
  refine Definition.loads_iff.mpr ⟨printedDraft accepting automaton, ?_,
    describes_printedDraft mem_accepting_iff⟩
  rw [Draft.ofText_of_isKeywordForm (isKeywordForm_print printable notS notA known)]
  exact read_print printable notS notA distinct known

/-- An automaton has a definition in keyword form exactly if it is printable, and then its
printed text is one, in whatever order the accepting states are declared. -/
theorem exists_keywordForm_iff_printable (marker : CommentMarker) (notS : marker.char ≠ 's')
    (notA : marker.char ≠ 'a') (automaton : Automaton) :
    ((∃ text, Draft.IsKeywordForm marker text ∧ Definition.Loads marker text automaton) ↔
        Printable automaton) ∧
      (Printable automaton → ∀ accepting : List String, accepting.Nodup →
        (∀ state, state ∈ accepting ↔ state ∈ automaton.accepting) →
          Draft.IsKeywordForm marker (print marker accepting automaton) ∧
            Definition.Loads marker (print marker accepting automaton) automaton) := by
  have printed : Printable automaton → ∀ accepting : List String, accepting.Nodup →
      (∀ state, state ∈ accepting ↔ state ∈ automaton.accepting) →
        Draft.IsKeywordForm marker (print marker accepting automaton) ∧
          Definition.Loads marker (print marker accepting automaton) automaton := by
    intro printable accepting distinct mem_accepting_iff
    constructor
    · exact isKeywordForm_print printable notS notA fun state => (mem_accepting_iff state).mp
    · exact loads_print printable notS notA distinct mem_accepting_iff
  refine ⟨⟨?_, fun printable => ?_⟩, printed⟩
  · rintro ⟨text, isKeywordForm, loads⟩
    exact printable_of_loads isKeywordForm loads
  · exact ⟨_, printed printable automaton.accepting.eraseDups (nodup_eraseDups _)
      fun _ => List.mem_eraseDups⟩

/-- An automaton whose names are all made of characters that the keyword form uses itself. -/
def punctuated : Automaton where
  states := ["#", "-"]
  alphabet := [':', '>']
  transitions := .ofList [(("#", ':'), "-"), (("-", '>'), "#")]
  start := "#"
  accepting := ["-"]
  states_nodup := by decide
  alphabet_nodup := by decide
  alphabet_ne_nil := by decide
  start_mem := by decide
  accepting_subset := by decide
  source_mem := by decide
  symbol_mem := by decide
  target_mem := by decide

theorem printable_punctuated : Printable punctuated where
  state_isItem := by
    intro state membership
    rcases List.mem_pair.mp membership with rfl | rfl
    · exact (isItem_singleton (by decide) (by decide) : IsItem ['#'])
    · exact (isItem_singleton (by decide) (by decide) : IsItem ['-'])
  symbol_not_separator := by
    intro symbol membership
    rcases List.mem_pair.mp membership with rfl | rfl <;> decide

theorem loads_print_punctuated :
    (default : CommentMarker).char ≠ 's' ∧ (default : CommentMarker).char ≠ 'a' ∧
      Draft.IsKeywordForm default (print default ["-"] punctuated) ∧
        Definition.Loads default (print default ["-"] punctuated) punctuated :=
  ⟨by decide, by decide,
    (exists_keywordForm_iff_printable default (by decide) (by decide) punctuated).2
      printable_punctuated ["-"] (by decide) fun _ => Iff.rfl⟩

end Keyword

end Acceptor
