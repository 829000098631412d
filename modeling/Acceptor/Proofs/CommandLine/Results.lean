import Acceptor.Proofs.Automaton.Words
import Acceptor.Proofs.CommandLine.Transcript
import Acceptor.Proofs.Definition.Orderly
import Acceptor.Proofs.Json.Numbers
import Acceptor.Proofs.Report.Complete
import Acceptor.Proofs.Text.Pieces
import Acceptor.Proofs.Text.Quoted

/-!
The lines that a run prints about the lines of its input.

Names of states are written as they are and everything else that is not of the program's own making
is quoted or a number, so nothing breaks a line and line `i + 1` of the output is about line `i`.
-/

namespace Acceptor

/-! ## Lines that are not broken -/

def IsUnbroken (text : String) : Prop :=
  '\n' ∉ text.toList

instance (text : String) : Decidable (IsUnbroken text) :=
  inferInstanceAs (Decidable (¬ _ ∈ _))

theorem isUnbroken_append {first second : String} :
    IsUnbroken (first ++ second) ↔ IsUnbroken first ∧ IsUnbroken second := by
  simp [IsUnbroken]

theorem isUnbroken_quote (text : String) : IsUnbroken (Text.quote text) :=
  Text.newline_not_mem_quote text

theorem isUnbroken_toString (value : Int) : IsUnbroken (toString value) := by
  have digits : '\n' ∉ Nat.toDigits 10 value.natAbs := by
    intro membership
    exact absurd (Json.isDigit_of_mem_toDigits membership) (by decide)
  unfold IsUnbroken
  rcases Int.lt_or_le value 0 with negative | nonneg
  · rw [Json.toList_toString_of_neg negative]
    simp [digits]
  · rwa [Json.toList_toString_of_nonneg nonneg]

theorem isUnbroken_toString_nat (n : Nat) : IsUnbroken (toString n) :=
  isUnbroken_toString n

theorem isUnbroken_intercalate {separator : String} (unbroken : IsUnbroken separator)
    {parts : List String} (partsUnbroken : ∀ part ∈ parts, IsUnbroken part) :
    IsUnbroken (separator.intercalate parts) := by
  unfold IsUnbroken
  rw [String.toList_intercalate]
  intro membership
  rcases Text.mem_intercalate membership with inSeparator | ⟨part, isPart, inPart⟩
  · exact unbroken inSeparator
  · obtain ⟨text, isText, rfl⟩ := List.mem_map.mp isPart
    exact partsUnbroken text isText inPart

/-- The states of a definition have names of a single line. -/
theorem isUnbroken_of_mem_trace {marker : CommentMarker} {policy : Policy}
    {text line state : String} {loaded : Loaded}
    (accepted : Definition.load marker policy text = .ok loaded)
    (visited : state ∈ (loaded.automaton.simulate line).trace) : IsUnbroken state := by
  cases read : Draft.ofText marker text with
  | error fault =>
      rw [Definition.load, read] at accepted
      contradiction
  | ok draft =>
      rw [Definition.load, read] at accepted
      have describes := (Definition.describes_of_loadDraft accepted).1
      obtain ⟨before, leads⟩ := Automaton.exists_leads_of_mem_trace visited
      have known := leads.mem_states loaded.automaton.start_mem
      exact Draft.newline_not_mem_of_ofText read (describes.mem_states_iff.mp known)

theorem isUnbroken_message (fault : RunFault) : IsUnbroken fault.message := by
  have state : IsUnbroken ((fault.state?.map Text.quote).getD "None") := by
    cases fault.state? with
    | none => decide
    | some state => exact isUnbroken_quote state
  unfold RunFault.message
  split
  · simp only [isUnbroken_append, isUnbroken_quote, isUnbroken_toString]
    decide
  · simp only [isUnbroken_append, isUnbroken_quote, isUnbroken_toString, state]
    decide

namespace CommandLine

theorem lines_textOf_append {lines : List String} (unbroken : ∀ line ∈ lines, IsUnbroken line)
    (rest : String) :
    Text.lines (textOf lines ++ rest).toList =
      lines.map String.toList ++ Text.lines rest.toList := by
  have rows : ∀ row ∈ lines.map String.toList, '\n' ∉ row := List.forall_mem_map.mpr unbroken
  have printed : (textOf lines ++ rest).toList =
      (lines.map String.toList).flatMap (· ++ ['\n']) ++ rest.toList := by
    simp [textOf, String.toList_join, List.flatMap_map]
  rw [printed, Text.lines_flatMap_append rows]

theorem getElem?_lines_textOf_append {lines : List String}
    (unbroken : ∀ line ∈ lines, IsUnbroken line) (rest : String) {index : Nat} {line : String}
    (isLine : lines[index]? = some line) :
    (Text.lines (textOf lines ++ rest).toList)[index]? = some line.toList := by
  obtain ⟨inLines, _⟩ := List.getElem?_eq_some_iff.mp isLine
  rw [lines_textOf_append unbroken, List.getElem?_append_left (by simpa using inLines),
    List.getElem?_map, isLine]
  rfl

/-! ## Result lines -/

variable {automaton : Automaton}

theorem resultLines_eq (automaton : Automaton) (number : Nat) (lines : List String) :
    resultLines number (lines.zip (lines.map fun line => some (automaton.simulate line))) =
      (lines.zipIdx number).map fun (line, number) =>
        resultLine number line (automaton.simulate line) := by
  induction lines generalizing number with
  | nil => rfl
  | cons line rest inductionHypothesis =>
      simp only [List.map_cons, List.zip_cons_cons, resultLines, inductionHypothesis,
        List.zipIdx_cons]

theorem isUnbroken_resultLine {number : Nat} {line : String} {verdict : Verdict}
    (unbroken : ∀ state ∈ verdict.trace, IsUnbroken state) :
    IsUnbroken (resultLine number line verdict) := by
  have word : IsUnbroken (if verdict.accepted then "VALID" else "INVALID") := by
    split <;> decide
  have space : IsUnbroken " " := by decide
  have trace := isUnbroken_intercalate space unbroken
  unfold resultLine
  cases verdict.fault? with
  | none =>
      simp only [isUnbroken_append, isUnbroken_toString_nat, isUnbroken_quote, word, trace]
      decide
  | some fault =>
      simp only [isUnbroken_append, isUnbroken_toString_nat, isUnbroken_quote, word, trace,
        isUnbroken_message]
      decide

theorem isUnbroken_countLine (summary : Summary) : IsUnbroken (countLine summary) := by
  unfold countLine
  simp only [isUnbroken_append, isUnbroken_toString, isUnbroken_toString_nat]
  decide

/-- The line about a line of the input tells its number, the line itself between quotes, whether it
is accepted, the states visited and what stopped the run, if anything did. -/
inductive ShowsVerdict (number : Nat) (line : String) (verdict : Verdict) : String → Prop where
  | judged : verdict.fault? = none →
      ShowsVerdict number line verdict
        (toString number ++ ": " ++ Text.quote line ++
          (if verdict.accepted then " VALID [" else " INVALID [") ++
          " ".intercalate verdict.trace ++ "]")
  | stopped {fault : RunFault} {message : String} :
      verdict.fault? = some fault → fault.IsToldBy message →
      ShowsVerdict number line verdict
        (toString number ++ ": " ++ Text.quote line ++
          (if verdict.accepted then " VALID [" else " INVALID [") ++
          " ".intercalate verdict.trace ++ "]  (" ++ message ++ ")")

theorem mark_eq (verdict : Verdict) :
    (if verdict.accepted then " VALID [" else " INVALID [") = " " ++ verdict.word ++ " [" := by
  unfold Verdict.word
  split <;> rfl

theorem resultLine_eq (number : Nat) (line : String) (verdict : Verdict) :
    resultLine number line verdict = toString number ++ ": " ++ Text.quote line ++
      (if verdict.accepted then " VALID [" else " INVALID [") ++ " ".intercalate verdict.trace ++
      verdict.fault?.elim "]" fun fault => "]  (" ++ fault.message ++ ")" := by
  rw [mark_eq, resultLine]
  simp only [String.append_assoc]
  cases verdict.fault? <;> rfl

theorem showsVerdict_iff {number : Nat} {line text : String} {verdict : Verdict} :
    ShowsVerdict number line verdict text ↔ text = resultLine number line verdict := by
  rw [resultLine_eq]
  constructor
  · rintro (clean | ⟨faulty, told⟩)
    · rw [clean]
      rfl
    · cases RunFault.isToldBy_iff.mp told
      simp only [faulty, Option.elim_some, String.append_assoc]
  · rintro rfl
    cases isFault : verdict.fault? with
    | none => exact .judged isFault
    | some fault =>
        have told : fault.IsToldBy fault.message := RunFault.isToldBy_iff.mpr rfl
        simpa only [Option.elim_some, String.append_assoc] using
          (.stopped isFault told : ShowsVerdict number line verdict _)

/-! ## All lines -/

/-- The text begins with a line about each line of an input.  The next line counts those that are
accepted, those that are rejected at their end, those whose runs stop before, and all. -/
structure ShowsVerdicts (text : String) (automaton : Automaton) (lines : List String) : Prop where
  told : ∀ index line, lines[index]? = some line → ∃ shown,
    (Text.lines text.toList)[index]? = some shown.toList ∧
      ShowsVerdict (index + 1) line (automaton.simulate line) shown
  counted : (Text.lines text.toList)[lines.length]? = some
    ("accepted=" ++ toString (lines.countP fun line => (automaton.simulate line).accepted) ++
      " rejected=" ++ toString (lines.countP fun line =>
        !(automaton.simulate line).accepted && (automaton.simulate line).fault?.isNone) ++
      " errored=" ++ toString (lines.countP fun line =>
        (automaton.simulate line).fault?.isSome) ++
      " total=" ++ toString lines.length).toList

variable {lines : List String}

/-- The lines about the lines of a batch, and the line with the counts. -/
def resultText (automaton : Automaton) (lines : List String) : List String :=
  ((lines.zipIdx 1).map fun (line, number) =>
    resultLine number line (automaton.simulate line)) ++
    [countLine (Batch.summary automaton lines)]

theorem length_resultText : (resultText automaton lines).length = lines.length + 1 := by
  simp [resultText]

theorem getElem?_resultText {index : Nat} {line : String} (isLine : lines[index]? = some line) :
    (resultText automaton lines)[index]? =
      some (resultLine (index + 1) line (automaton.simulate line)) := by
  obtain ⟨inLines, _⟩ := List.getElem?_eq_some_iff.mp isLine
  rw [resultText, List.getElem?_append_left (by simpa using inLines), List.getElem?_map,
    List.getElem?_zipIdx, isLine, Nat.add_comm index 1]
  rfl

theorem getElem?_resultText_length (lines : List String) :
    (resultText automaton lines)[lines.length]? =
      some (countLine (Batch.summary automaton lines)) := by
  rw [resultText, List.getElem?_append_right (by simp)]
  simp

theorem isUnbroken_of_mem_resultText (lines : List String)
    (unbroken : ∀ line, ∀ state ∈ (automaton.simulate line).trace, IsUnbroken state) :
    ∀ text ∈ resultText automaton lines, IsUnbroken text := by
  refine List.forall_mem_append.mpr ⟨?_, ?_⟩
  · intro text printed
    obtain ⟨⟨line, number⟩, _, rfl⟩ := List.mem_map.mp printed
    exact isUnbroken_resultLine (unbroken line)
  · exact List.forall_mem_singleton.mpr (isUnbroken_countLine _)

theorem showsVerdicts_textOf (lines : List String)
    (unbroken : ∀ line, ∀ state ∈ (automaton.simulate line).trace, IsUnbroken state)
    (rest : String) :
    ShowsVerdicts (textOf (resultText automaton lines) ++ rest) automaton lines := by
  have shown {index : Nat} {text : String}
      (known : (resultText automaton lines)[index]? = some text) :
      (Text.lines (textOf (resultText automaton lines) ++ rest).toList)[index]? =
        some text.toList :=
    getElem?_lines_textOf_append (isUnbroken_of_mem_resultText lines unbroken) rest known
  constructor
  · intro index line isLine
    exact ⟨_, shown (getElem?_resultText isLine), showsVerdict_iff.mpr rfl⟩
  · exact shown (getElem?_resultText_length lines)

end CommandLine

end Acceptor
