import Acceptor.Proofs.Files.Input
import Acceptor.Proofs.Report.Complete
import Mathlib.Data.List.Forall2

/-!
The text of a verdict file.

A report that is not cancelled has a word for each of its lines, because its maker let no verdict be
left out.  The words are the lines of the text.
-/

namespace Acceptor.Report

variable {report : Report} {verdicts : List (Option Verdict)} {words : List String}

/-- The word says whether the line was accepted; there is none for a line that was left out. -/
inductive IsWordOf : Option Verdict → String → Prop where
  | valid {verdict : Verdict} : verdict.accepted = true → IsWordOf (some verdict) "VALID"
  | invalid {verdict : Verdict} : verdict.accepted = false → IsWordOf (some verdict) "INVALID"

theorem isWordOf_word (verdict : Verdict) : IsWordOf (some verdict) verdict.word := by
  unfold Verdict.word
  split
  next accepted => exact .valid accepted
  next refused => exact .invalid (Bool.eq_false_iff.mpr refused)

def wordsText (words : List String) : String :=
  String.join (words.map (· ++ "\n"))

theorem verdicts_eq_map_given (complete : report.verdicts.all Option.isSome = true) :
    report.verdicts = report.given.map some := by
  unfold given
  generalize report.verdicts = verdicts at complete
  induction verdicts with
  | nil => rfl
  | cons verdict? rest inductionHypothesis =>
      rw [List.all_cons, Bool.and_eq_true] at complete
      obtain ⟨verdict, rfl⟩ := Option.isSome_iff_exists.mp complete.1
      exact congrArg (some verdict :: ·) (inductionHypothesis complete.2)

theorem all_isSome_of_not_cancelled (finished : report.cancelled = false) :
    report.verdicts.all Option.isSome = true := by
  have checked := report.complete_or_cancelled
  rwa [finished, Bool.or_false] at checked

/-- A report that is not cancelled has a word for each line. -/
theorem exists_words (finished : report.cancelled = false) :
    ∃ words, List.Forall₂ IsWordOf report.verdicts words ∧
      report.output = .ok (wordsText words) := by
  have complete := all_isSome_of_not_cancelled finished
  refine ⟨report.given.map Verdict.word, ?_, ?_⟩
  · rw [verdicts_eq_map_given complete, List.forall₂_map_left_iff, List.forall₂_map_right_iff]
    apply List.forall₂_same.mpr
    intro verdict _
    exact isWordOf_word verdict
  · rw [output, finished, if_neg Bool.false_ne_true, wordsText, List.map_map]
    rfl

theorem output_of_cancelled (cancelled : report.cancelled = true) :
    report.output = .error .cancelled := by
  rw [output, if_pos cancelled]

theorem IsWordOf.visible {verdict? : Option Verdict} {word : String}
    (isWord : IsWordOf verdict? word) :
    word ≠ "" ∧ ∀ c ∈ word.toList, Text.isBlank c = false := by
  cases isWord with
  | valid _ =>
      have visible : "VALID".toList.all (fun c => !Text.isBlank c) = true := rfl
      exact ⟨by decide, by simpa using visible⟩
  | invalid _ =>
      have visible : "INVALID".toList.all (fun c => !Text.isBlank c) = true := rfl
      exact ⟨by decide, by simpa using visible⟩

theorem visible_of_mem (areWords : List.Forall₂ IsWordOf verdicts words) {word : String}
    (isWord : word ∈ words) : word ≠ "" ∧ ∀ c ∈ word.toList, Text.isBlank c = false := by
  induction areWords with
  | nil => contradiction
  | cons first _ inductionHypothesis =>
      rcases List.mem_cons.mp isWord with same | later
      · rw [same]
        exact first.visible
      · exact inductionHypothesis later

theorem inputLines_wordsText (areWords : List.Forall₂ IsWordOf verdicts words) :
    Tree.inputLines (wordsText words) = words := by
  apply Tree.inputLines_join
  · intro word isWord
    exact (visible_of_mem areWords isWord).1
  · intro word isWord
    exact (visible_of_mem areWords isWord).2

theorem return_not_mem_wordsText (areWords : List.Forall₂ IsWordOf verdicts words) :
    '\r' ∉ (wordsText words).toList := by
  intro membership
  rw [wordsText, String.toList_join, List.flatMap_map] at membership
  obtain ⟨word, isWord, inLine⟩ := List.mem_flatMap.mp membership
  rcases List.mem_append.mp (String.toList_append ▸ inLine) with inWord | inEnd
  · exact absurd ((visible_of_mem areWords isWord).2 _ inWord) (by decide)
  · exact absurd inEnd (by decide)

/-- Read as an input file, a verdict file has the words as its lines. -/
theorem readInput_of_storesAt {tree : Tree} {path : String} {place : List String}
    (areWords : List.Forall₂ IsWordOf verdicts words)
    (stores : tree.StoresAt path place (.ofText (wordsText words))) :
    tree.readInput path = .ok { filename := (Path.ofString path).name, lines := words } := by
  rw [Tree.readInput_of_storesAt stores,
    Text.unifyNewlines_of_not_mem (return_not_mem_wordsText areWords), String.ofList_toList,
    inputLines_wordsText areWords]

end Acceptor.Report
