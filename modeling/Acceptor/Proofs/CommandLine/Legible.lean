import Acceptor.Proofs.CommandLine.Story

/-!
What a run prints can be read without mistake.

The line about a line of the input tells that line and whether it is accepted, whatever stands in
it and in the names of the states.  A run that saves nothing prints nothing else, so the lines of
its input and their verdicts are told from its output alone.
-/

namespace Acceptor.CommandLine

variable {libraries : Libraries} {options : Options} {session : Session} {batch : Batch}
  {report : Report} {transcript : Transcript} {automaton : Automaton}

/-! ## One line -/

theorem accepted_eq_of_word_append {verdict other : Verdict} {rest more : List Char}
    (same : verdict.word.toList ++ rest = other.word.toList ++ more) :
    verdict.accepted = other.accepted := by
  have sameHead := congrArg List.head? same
  unfold Verdict.word at sameHead
  cases isAccepted : verdict.accepted <;> cases otherIsAccepted : other.accepted
  · rfl
  · simp [isAccepted, otherIsAccepted] at sameHead
  · simp [isAccepted, otherIsAccepted] at sameHead
  · rfl

/-- The line about an input line is its number, the line itself, the verdict and whatever
follows. -/
theorem exists_toList_resultLine (number : Nat) (line : String) (verdict : Verdict) :
    ∃ rest, (resultLine number line verdict).toList =
      (toString number ++ ": ").toList ++
        ((Text.quote line).toList ++ ' ' :: (verdict.word.toList ++ rest)) := by
  refine ⟨(" [" ++ " ".intercalate verdict.trace ++
    verdict.fault?.elim "]" fun fault => "]  (" ++ fault.message ++ ")").toList, ?_⟩
  rw [resultLine_eq, mark_eq]
  simp only [String.toList_append, List.append_assoc]
  rfl

theorem resultLine_inj {number : Nat} {line other : String} {verdict otherVerdict : Verdict}
    (same : resultLine number line verdict = resultLine number other otherVerdict) :
    line = other ∧ verdict.accepted = otherVerdict.accepted := by
  obtain ⟨rest, shape⟩ := exists_toList_resultLine number line verdict
  obtain ⟨more, otherShape⟩ := exists_toList_resultLine number other otherVerdict
  rw [same, otherShape] at shape
  obtain ⟨sameLine, later⟩ := Text.quote_append_inj (List.append_cancel_left shape)
  exact ⟨sameLine.symm, (accepted_eq_of_word_append (List.cons.inj later).2).symm⟩

/-! ## All lines -/

/-- Two runs whose lines look alike have gone through the same lines, and accepted the same of
them. -/
theorem resultText_inj {other : Automaton} {lines otherLines : List String}
    (same : resultText automaton lines = resultText other otherLines) :
    lines = otherLines ∧
      lines.map (fun line => (automaton.simulate line).accepted) =
        otherLines.map (fun line => (other.simulate line).accepted) := by
  have sameLength : lines.length = otherLines.length := by
    simpa [resultText] using congrArg List.length same
  -- Lines in the same place have the same number in front.
  have alike {index : Nat} {line otherLine : String} (isLine : lines[index]? = some line)
      (isOther : otherLines[index]? = some otherLine) :
      line = otherLine ∧
        (automaton.simulate line).accepted = (other.simulate otherLine).accepted := by
    have shown : (resultText automaton lines)[index]? = _ := getElem?_resultText isLine
    rw [same, getElem?_resultText isOther] at shown
    obtain ⟨sameLine, sameVerdict⟩ := resultLine_inj (Option.some.inj shown)
    exact ⟨sameLine.symm, sameVerdict.symm⟩
  constructor
  · refine List.ext_getElem sameLength fun index inLines inOthers => ?_
    exact (alike (List.getElem?_eq_getElem inLines) (List.getElem?_eq_getElem inOthers)).1
  · refine List.ext_getElem (by simpa using sameLength) fun index inLines inOthers => ?_
    rw [List.length_map] at inLines inOthers
    simpa using
      (alike (List.getElem?_eq_getElem inLines) (List.getElem?_eq_getElem inOthers)).2

/-! ## Runs that save nothing -/

theorem stdout_eq_of_writeExport {output : Export} {before after : Transcript}
    (silent : output ≠ .verdicts)
    (wrote : writeExport libraries options session batch report before output = .ok after) :
    after.stdout = before.stdout := by
  obtain ⟨tree, rfl | ⟨isVerdicts, _⟩⟩ := after_of_writeExport wrote
  · rfl
  · exact absurd isVerdicts silent

theorem stdout_writeExports_of_silent {outputs : List Export}
    (silent : ∀ output ∈ outputs, output ≠ .verdicts) :
    (writeExports libraries options session batch report transcript outputs).transcript.stdout =
      transcript.stdout := by
  induction outputs generalizing transcript with
  | nil => rfl
  | cons output rest inductionHypothesis =>
      obtain ⟨silentHere, silentLater⟩ := List.forall_mem_cons.mp silent
      unfold writeExports
      split
      next failure failed => exact stdout_conclude
      next after wrote =>
        rw [inductionHypothesis silentLater]
        exact stdout_eq_of_writeExport silentHere wrote

theorem ne_verdicts_of_mem_exports (unsaved : options.save = false) {output : Export}
    (asked : output ∈ options.exports) : output ≠ .verdicts := by
  rintro rfl
  simp [Options.exports, unsaved] at asked

/-- A text has one line about each input line, then a line with the counts, and nothing else. -/
structure Tells (text : String) (automaton : Automaton) (lines : List String) : Prop
    extends ShowsVerdicts text automaton lines where
  length_eq : (Text.lines text.toList).length = lines.length + 2
  ended : (Text.lines text.toList)[lines.length + 1]? = some []

variable {lines : List String}

theorem lines_textOf_resultText (lines : List String)
    (unbroken : ∀ line, ∀ state ∈ (automaton.simulate line).trace, IsUnbroken state) :
    Text.lines (textOf (resultText automaton lines)).toList =
      (resultText automaton lines).map String.toList ++ [[]] := by
  have split := lines_textOf_append (isUnbroken_of_mem_resultText lines unbroken) ""
  rwa [String.append_empty] at split

theorem tells_textOf_resultText
    (unbroken : ∀ line, ∀ state ∈ (automaton.simulate line).trace, IsUnbroken state) :
    Tells (textOf (resultText automaton lines)) automaton lines := by
  have pieces := lines_textOf_resultText lines unbroken
  have shows := showsVerdicts_textOf lines unbroken ""
  rw [String.append_empty] at shows
  refine { shows with length_eq := ?_, ended := ?_ }
  · simp [pieces, length_resultText]
  · simp [pieces, length_resultText]

/-- A run that saves nothing ends well, having taken lines through an automaton. -/
structure EndsUnsaved (libraries : Libraries) (arguments : List String) (tree : Tree)
    (automaton : Automaton) (lines : List String) : Prop where
  called : ∃ definition input? options settings loaded batch,
    Invocation.ofArguments arguments = .ok ⟨.run definition input?, options⟩ ∧
      options.save = false ∧
      Prepares options tree definition input? settings loaded batch ∧
      loaded.automaton = automaton ∧ batch.lines = lines
  ended : (execute arguments tree libraries).ending = .exit 0

variable {arguments : List String} {tree : Tree} {definition : String} {input? : Option String}

theorem endsUnsaved_of_ending
    (read : Invocation.ofArguments arguments = .ok ⟨.run definition input?, options⟩)
    (unsaved : options.save = false) (ended : (execute arguments tree libraries).ending = .exit 0) :
    ∃ automaton lines, EndsUnsaved libraries arguments tree automaton lines := by
  rw [execute_of_ofArguments read] at ended
  rcases comesToNothing_or_presents libraries options tree definition input? with
    nothing | ⟨settings, loaded, batch, prepares, _⟩
  · exact absurd ended nothing.ending_ne
  · exact ⟨_, _, ⟨definition, input?, options, settings, loaded, batch, read, unsaved, prepares,
      rfl, rfl⟩, (execute_of_ofArguments read tree).symm ▸ ended⟩

theorem EndsUnsaved.stdout_eq (ends : EndsUnsaved libraries arguments tree automaton lines) :
    (execute arguments tree libraries).transcript.stdout = textOf (resultText automaton lines) := by
  obtain ⟨definition, input?, options, settings, loaded, batch, read, unsaved, prepares, rfl,
    rfl⟩ := ends.called
  obtain ⟨input, rfl, _⟩ := prepares.exists_input
  obtain ⟨session, transcript, _, _, _, printed, performed⟩ :=
    exists_writeExports_of_prepares libraries prepares
  rw [execute_of_ofArguments read, performed, stdout_writeExports_of_silent, printed]
  exact fun _ => ne_verdicts_of_mem_exports unsaved

theorem EndsUnsaved.isUnbroken (ends : EndsUnsaved libraries arguments tree automaton lines)
    (line : String) :
    ∀ state ∈ (automaton.simulate line).trace, IsUnbroken state := by
  obtain ⟨_, _, _, _, _, _, _, _, prepares, rfl, _⟩ := ends.called
  obtain ⟨_, _, loading⟩ := prepares.exists_definition
  exact fun _ => isUnbroken_of_mem_trace loading

/-- Nothing in a definition or in an input forges or hides a line of what a run prints. -/
theorem tells_execute
    (read : Invocation.ofArguments arguments = .ok ⟨.run definition input?, options⟩)
    (unsaved : options.save = false) (ended : (execute arguments tree libraries).ending = .exit 0) :
    ∃ automaton lines, EndsUnsaved libraries arguments tree automaton lines ∧
      Tells (execute arguments tree libraries).transcript.stdout automaton lines ∧
      ∀ otherLibraries otherArguments otherTree other otherLines,
        EndsUnsaved otherLibraries otherArguments otherTree other otherLines →
        (execute otherArguments otherTree otherLibraries).transcript.stdout =
          (execute arguments tree libraries).transcript.stdout →
        otherLines = lines ∧
          otherLines.map (fun line => (other.simulate line).accepted) =
            lines.map (fun line => (automaton.simulate line).accepted) := by
  obtain ⟨automaton, lines, ends⟩ := endsUnsaved_of_ending read unsaved ended
  refine ⟨automaton, lines, ends, ?_, ?_⟩
  · rw [ends.stdout_eq]
    exact tells_textOf_resultText ends.isUnbroken
  · intro otherLibraries otherArguments otherTree other otherLines otherEnds same
    -- No line is broken, so equal texts have equal lines.
    have sameLines := congrArg (fun stdout => Text.lines stdout.toList) same
    simp only [ends.stdout_eq, otherEnds.stdout_eq, lines_textOf_resultText lines ends.isUnbroken,
      lines_textOf_resultText otherLines otherEnds.isUnbroken] at sameLines
    apply resultText_inj
    have injective : String.toList.Injective := fun _ _ => String.toList_injective
    exact injective.list_map (List.append_cancel_right sameLines)

def plainArguments : List String := ["run", "d.dfa", "w.in"]

/-- The same automaton in keyword form, and the same words with other blanks around them. -/
def rewordedTree : Tree :=
  (({} : Tree).putFile ["d.dfa"] (.ofText ("start: even\nstates: even odd\nalphabet: 0 1\n" ++
    "accept: odd\neven, 0 -> even\neven, 1 -> odd\nodd, 0 -> odd\nodd, 1 -> even\n"))).putFile
      ["w.in"] (.ofText "\n01\n0\n2'\n")

theorem tells_wordsTree :
    (execute plainArguments wordsTree).transcript.stdout =
        "1: '01' VALID [even even odd]\n2: '0' INVALID [even even]\n" ++
        "3: \"2'\" INVALID [even]  (symbol '2' at position 0 is not in the alphabet)\n" ++
        "accepted=1 rejected=1 errored=1 total=3\n" ∧
      (execute plainArguments rewordedTree).transcript.stdout =
        (execute plainArguments wordsTree).transcript.stdout ∧
      ∃ automaton other lines,
        Tells (execute plainArguments wordsTree).transcript.stdout automaton lines ∧
          EndsUnsaved .plain plainArguments wordsTree automaton lines ∧
          EndsUnsaved .plain plainArguments rewordedTree other lines := by
  have read : Invocation.ofArguments plainArguments = .ok ⟨.run "d.dfa" (some "w.in"), {}⟩ := by rfl
  have ended : (execute plainArguments wordsTree).ending = .exit 0 := by decide +kernel
  obtain ⟨otherEnded, same⟩ : (execute plainArguments rewordedTree).ending = .exit 0 ∧
      (execute plainArguments rewordedTree).transcript.stdout =
        (execute plainArguments wordsTree).transcript.stdout := by decide +kernel
  obtain ⟨automaton, lines, ends, tells, told⟩ := tells_execute read rfl ended
  obtain ⟨other, otherLines, otherEnds, _, _⟩ := tells_execute read rfl otherEnded
  obtain ⟨rfl, _⟩ := told _ _ _ _ _ otherEnds same
  exact ⟨by decide +kernel, same, automaton, other, otherLines, tells, ends, otherEnds⟩

end Acceptor.CommandLine
