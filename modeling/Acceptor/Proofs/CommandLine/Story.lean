import Acceptor.Proofs.CommandLine.Results
import Acceptor.Proofs.CommandLine.Run
import Acceptor.Proofs.Report.RoundTrip
import Acceptor.Proofs.Report.Table

/-!
All outputs of a run tell the same story.

What is printed and what is written to the three kinds of files are five ways to show one list of
verdicts.  A run that comes to no verdicts prints nothing and writes nothing.
-/

namespace Acceptor.CommandLine

/-- All that a run reads before it goes through its lines can be read. -/
structure Prepares (options : Options) (tree : Tree) (definition : String)
    (input? : Option String) (settings : Settings) (loaded : Loaded) (batch : Batch) : Prop where
  settings_eq : options.settings = .ok settings
  exists_definition : ∃ file, tree.readDefinition definition = .ok file ∧
    Definition.load settings.marker settings.policy file.content = .ok loaded
  exists_input : ∃ input, input? = some input ∧ tree.readInput input = .ok batch

/-- The records are the names of the columns, then one record for each line with its verdict. -/
structure TabulatesVerdicts (records : List (List String)) (automaton : Automaton)
    (lines : List String) : Prop where
  length_eq : records.length = lines.length + 1
  head?_eq : records.head? =
    some ["line", "input", "status", "accepted", "final_state", "trace", "error"]
  isRecord : ∀ index line, lines[index]? = some line → ∃ record,
    records[index + 1]? = some record ∧
      Frame.IsRecord (index + 1) line (some (automaton.simulate line)) record

/-- All outputs of a run show the verdicts of an automaton on the lines of a batch.  The report can
be read again unless a line is so long that the position of a symbol in it may have more digits than
are read in a number. -/
structure TellsStory (files : Libraries.Files) (options : Options) (input : String) (tree : Tree)
    (automaton : Automaton) (batch : Batch) (after : Transcript) : Prop where
  printed : ShowsVerdicts after.stdout automaton batch.lines
  saved : options.save = true → ∃ path text, (Path.ofString input).verdictPath = .ok path ∧
    after.tree.read path.toString = .ok (.ofText text) ∧
    Text.lines text.toList = (batch.lines.map fun line =>
      (if (automaton.simulate line).accepted then "VALID" else "INVALID").toList) ++ [[]]
  reported : ∀ path, given options.json? = some path →
    (∀ line ∈ batch.lines, line.length < 10 ^ Json.maxDigits) →
      ∃ report, after.tree.readReport path = .ok report ∧
        report.verdicts = batch.lines.map fun line => some (automaton.simulate line)
  tabled : ∀ path, given options.csv? = some path → ∃ content text records,
    after.tree.read (files.table path) = .ok content ∧ files.unpack path content = some text ∧
      Text.Csv.records? text.toList = some (records.map (List.map String.toList)) ∧
      TabulatesVerdicts records automaton batch.lines
  untouched : ∀ place,
    (∀ output ∈ options.exports, output.place? files tree input ≠ some place) →
      after.tree.node? place = tree.node? place

variable {libraries : Libraries} {files : Libraries.Files} {options : Options} {session : Session}
  {input definition path : String} {input? : Option String} {tree : Tree} {automaton : Automaton}
  {workers : Workers} {batch : Batch} {transcript : Transcript}

/-! ## What is written -/

theorem present_eq (libraries : Libraries) (options : Options) (session : Session)
    (automaton : Automaton) (workers : Workers) (batch : Batch) (transcript : Transcript) :
    present libraries options session batch (batch.run automaton workers none) transcript =
      writeExports libraries options session batch (batch.run automaton workers none)
        (transcript.print (resultText automaton batch.lines)) options.exports := by
  unfold present
  simp only [Batch.verdicts_run_none, resultLines_eq, Batch.ofReport_run_none]
  rfl

theorem verdicts_mem_exports (asked : options.save = true) : .verdicts ∈ options.exports := by
  simp [Options.exports, asked]

theorem report_mem_exports (asked : given options.json? = some path) :
    .report path ∈ options.exports := by
  simp [Options.exports, asked]

theorem frame_mem_exports (asked : given options.csv? = some path) :
    .frame path ∈ options.exports := by
  simp [Options.exports, asked]

theorem saved_of_standsIn
    (stands : Export.verdicts.StandsIn files tree input batch
      (batch.run automaton workers none)) :
    ∃ path text, (Path.ofString input).verdictPath = .ok path ∧
      tree.read path.toString = .ok (.ofText text) ∧
      Text.lines text.toList = (batch.lines.map fun line =>
        (if (automaton.simulate line).accepted then "VALID" else "INVALID").toList) ++ [[]] := by
  obtain ⟨path, found, content, isPath, isContent, stores⟩ := stands
  rw [Export.Shows, Batch.output_run_none] at isContent
  cases isContent
  cases placed : (Path.ofString input).verdictPath with
  | error fault =>
      rw [Export.path?, placed] at isPath
      cases isPath
  | ok verdictPath =>
      rw [Export.path?, placed] at isPath
      cases isPath
      exact ⟨verdictPath, _, rfl, stores.read, Batch.lines_words automaton batch.lines⟩

theorem reported_of_standsIn (short : ∀ line ∈ batch.lines, line.length < 10 ^ Json.maxDigits)
    (stands : (Export.report path).StandsIn files tree input batch
      (batch.run automaton workers none)) :
    ∃ report, tree.readReport path = .ok report ∧
      report.verdicts = batch.lines.map fun line => some (automaton.simulate line) := by
  obtain ⟨_, found, content, isPath, isContent, stores⟩ := stands
  cases isPath
  cases isContent
  have fits := Report.fits_toJson 986 (Batch.positionsFit_run_none automaton workers short)
  exact ⟨_, Tree.readReport_of_storesAt stores (Json.read_print fits) (Report.ofJson_toJson _),
    Batch.verdicts_run_none automaton workers batch⟩

theorem tabled_of_standsIn
    (stands : (Export.frame path).StandsIn files tree input batch
      (batch.run automaton workers none)) :
    ∃ content text records, tree.read (files.table path) = .ok content ∧
      files.unpack path content = some text ∧
      Text.Csv.records? text.toList = some (records.map (List.map String.toList)) ∧
      TabulatesVerdicts records automaton batch.lines := by
  obtain ⟨_, found, content, isPath, ⟨rows, made, unpacked⟩, stores⟩ := stands
  cases isPath
  obtain ⟨length, head, _, isRecord⟩ := Frame.tabulates_of_rows made
  refine ⟨content, _, _, stores.read, unpacked, Frame.records?_csv rows, ?_, head, ?_⟩
  · rw [length, Batch.verdicts_run_none, List.length_map]
  · intro index line isLine
    have isVerdict : (batch.run automaton workers none).verdicts[index]? =
        some (some (automaton.simulate line)) := by
      rw [Batch.verdicts_run_none, List.getElem?_map, isLine]
      rfl
    have isInput : Frame.lineText (some batch) index = line := by
      rw [Frame.lineText, Option.bind_some, isLine, Option.getD_some]
    have shown := isRecord index _ isVerdict
    rwa [isInput] at shown

theorem tellsStory_present
    (filed : ∀ output ∈ options.exports, output.IsFiled libraries files)
    (loaded : session.input? = some { batch, path? := some (Path.ofString input) })
    (unbroken : ∀ line, ∀ state ∈ (automaton.simulate line).trace, IsUnbroken state)
    (fresh : transcript.stdout = "")
    (ended : (present libraries options session batch (batch.run automaton workers none)
      transcript).ending = .exit 0)
    (apart : options.exports.Pairwise fun first second =>
      first.place? files transcript.tree input ≠ second.place? files transcript.tree input) :
    TellsStory files options input transcript.tree automaton batch
      (present libraries options session batch (batch.run automaton workers none)
        transcript).transcript := by
  rw [present_eq] at ended ⊢
  have stands := standsIn_writeExports filed loaded ended apart
  obtain ⟨rest, printed⟩ := stdout_writeExports libraries options session batch
    (batch.run automaton workers none) (transcript.print (resultText automaton batch.lines))
    options.exports
  rw [stdout_print, fresh, String.empty_append] at printed
  exact {
    printed := printed ▸ showsVerdicts_textOf batch.lines unbroken rest
    saved := fun asked => saved_of_standsIn (stands _ (verdicts_mem_exports asked))
    reported := by
      intro path asked short
      exact reported_of_standsIn short (stands _ (report_mem_exports asked))
    tabled := fun path asked => tabled_of_standsIn (stands _ (frame_mem_exports asked))
    untouched := by
      intro place elsewhere
      exact (keeps_writeExports (transcript.print (resultText automaton batch.lines)) filed loaded
        elsewhere).node?_eq }

/-! ## Whole commands -/

/-- The command fails, and nothing is printed or changed. -/
structure ComesToNothing (tree : Tree) (outcome : Outcome) : Prop where
  ending_ne : outcome.ending ≠ .exit 0
  stdout_eq : outcome.transcript.stdout = ""
  tree_eq : outcome.transcript.tree = tree

theorem comesToNothing_conclude {failure : Failure} (fresh : transcript.stdout = "")
    (same : transcript.tree = tree) :
    ComesToNothing tree (conclude transcript failure) := by
  refine ⟨?_, ?_, ?_⟩
  · intro ended
    exact absurd (eq_of_ending_conclude ended) (by decide)
  · rw [stdout_conclude, fresh]
  · rw [tree_conclude, same]

/-- A run fails before it comes to its lines, or it goes through them and presents the verdicts. -/
theorem comesToNothing_or_presents (libraries : Libraries) (options : Options) (tree : Tree)
    (definition : String) (input? : Option String) :
    ComesToNothing tree (perform libraries ⟨.run definition input?, options⟩ tree) ∨
      ∃ settings loaded batch, Prepares options tree definition input? settings loaded batch ∧
        ∃ input session transcript, input? = some input ∧
          session.input? = some { batch, path? := some (Path.ofString input) } ∧
          transcript.stdout = "" ∧ transcript.tree = tree ∧
          perform libraries ⟨.run definition input?, options⟩ tree = present libraries options
            session batch (batch.run loaded.automaton settings.workers none) transcript := by
  unfold perform
  cases chosen : options.settings with
  | error failure => exact .inl (comesToNothing_conclude rfl rfl)
  | ok settings =>
  dsimp only
  cases read : tree.readDefinition definition with
  | error failure =>
      rw [run_of_unread read]
      exact .inl (comesToNothing_conclude rfl rfl)
  | ok file =>
  cases loading : Definition.load settings.marker settings.policy file.content with
  | error error =>
      rw [run_of_refused read loading]
      exact .inl ⟨by simp, rfl, rfl⟩
  | ok loaded =>
  rw [run_of_loaded read loading]
  let warned := (noted options settings tree definition file).complain
    (loaded.warnings.map warningLine)
  let session : Session := { settings, active? := some { definition := file, loaded } }
  cases input? with
  | none => exact .inl (comesToNothing_conclude rfl rfl)
  | some input =>
  cases readInput : warned.tree.readInput input with
  | error failure =>
      have nothing :
          runInput libraries options session warned (some input) = conclude warned failure :=
        runInput_of_unread readInput
      rw [nothing]
      exact .inl (comesToNothing_conclude rfl rfl)
  | ok batch =>
      have presented : runInput libraries options session warned (some input) = _ :=
        runInput_of_read rfl readInput
      refine .inr ⟨settings, loaded, batch, ⟨chosen, ⟨file, read, loading⟩, input, rfl, readInput⟩,
        input, _, _, rfl, ?_, ?_, ?_, presented⟩
      · rfl
      · rfl
      · rfl

/-- A run that has read its input writes what it is asked for. -/
theorem exists_writeExports_of_prepares (libraries : Libraries) {settings : Settings}
    {loaded : Loaded}
    (prepares : Prepares options tree definition (some input) settings loaded batch) :
    ∃ (session : Session) (transcript : Transcript),
      session.input? = some { batch, path? := some (Path.ofString input) } ∧
        transcript.tree = tree ∧ transcript.HasWholeLines ∧
        transcript.stdout = textOf (resultText loaded.automaton batch.lines) ∧
        perform libraries ⟨.run definition (some input), options⟩ tree =
          writeExports libraries options session batch
            (batch.run loaded.automaton settings.workers none) transcript options.exports := by
  obtain ⟨file, read, accepted⟩ := prepares.exists_definition
  obtain ⟨_, given, readInput⟩ := prepares.exists_input
  cases given
  have whole := hasWholeLines_warned options settings tree definition file loaded
  let session : Session := { settings, active? := some { definition := file, loaded } }
  have presented : runInput libraries options session
      (warned options settings tree definition file loaded) (some input) = _ :=
    runInput_of_read rfl readInput
  rw [present_eq] at presented
  refine ⟨session.withInput batch (some (Path.ofString input)), _, rfl, ?_, ?_, ?_,
    (perform_run_of_loaded (some input) prepares.settings_eq read accepted).trans presented⟩
  · rfl
  · exact ((whole.log _ _).log _ _).print _
  · exact String.empty_append

/-- If a run ends well, all its outputs show the verdicts of the automaton that it has read on the
lines that it has read, provided that no two of its files are the same and that libraries write to
files what is left to them.  If the run cannot read these, it prints nothing and leaves the files
alone. -/
theorem tellsStory_execute {arguments : List String}
    (read : Invocation.ofArguments arguments = .ok ⟨.run definition input?, options⟩)
    (filed : ∀ output ∈ options.exports, output.IsFiled libraries files) (tree : Tree) :
    ((execute arguments tree libraries).ending = .exit 0 → ∃ input settings loaded batch,
      input? = some input ∧ Prepares options tree definition input? settings loaded batch ∧
        ((options.exports.Pairwise fun first second =>
            first.place? files tree input ≠ second.place? files tree input) →
          TellsStory files options input tree loaded.automaton batch
            (execute arguments tree libraries).transcript)) ∧
      ((¬ ∃ settings loaded batch,
          Prepares options tree definition input? settings loaded batch) →
        ComesToNothing tree (execute arguments tree libraries)) := by
  rw [execute_of_ofArguments read]
  rcases comesToNothing_or_presents libraries options tree definition input? with
    nothing | ⟨settings, loaded, batch, prepares, input, session, transcript, rfl, given, fresh,
      rfl, presented⟩
  · exact ⟨fun ended => absurd ended nothing.ending_ne, fun _ => nothing⟩
  · constructor
    · intro ended
      refine ⟨input, settings, loaded, batch, rfl, prepares, fun apart => ?_⟩
      obtain ⟨file, _, loading⟩ := prepares.exists_definition
      rw [presented] at ended ⊢
      apply tellsStory_present filed given _ fresh ended apart
      intro line state visited
      exact isUnbroken_of_mem_trace loading visited
    · exact fun unprepared => absurd ⟨settings, loaded, batch, prepares⟩ unprepared

/-- An automaton in table form, and three words: one accepted, one rejected and one with a symbol
that is not in the alphabet. -/
def wordsTree : Tree :=
  (({} : Tree).putFile ["d.dfa"] (.ofText "0,1\n-,even,even,odd\n+,odd,odd,even\n")).putFile
    ["w.in"] (.ofText "01\n0\n2'")

def wordsArguments : List String :=
  ["run", "d.dfa", "w.in", "-w", "2", "--save", "--json", "r.json", "--csv", "t.csv"]

def wordsOptions : Options where
  workers? := some 2
  save := true
  json? := some "r.json"
  csv? := some "t.csv"

theorem tellsStory_wordsTree :
    ((execute wordsArguments wordsTree).ending = .exit 0 ∧
      (execute wordsArguments wordsTree).transcript.stdout =
        "1: '01' VALID [even even odd]\n2: '0' INVALID [even even]\n" ++
        "3: \"2'\" INVALID [even]  (symbol '2' at position 0 is not in the alphabet)\n" ++
        "accepted=1 rejected=1 errored=1 total=3\nwrote w.out\n" ∧
      (execute wordsArguments wordsTree).transcript.tree.read "w.out" =
        .ok (.ofText "VALID\nINVALID\nINVALID\n")) ∧
    ∃ settings loaded batch,
      Prepares wordsOptions wordsTree "d.dfa" (some "w.in") settings loaded batch ∧
        TellsStory .plain wordsOptions "w.in" wordsTree loaded.automaton batch
          (execute wordsArguments wordsTree).transcript := by
  have read : Invocation.ofArguments wordsArguments =
      .ok ⟨.run "d.dfa" (some "w.in"), wordsOptions⟩ := by rfl
  have filed : ∀ output ∈ wordsOptions.exports, output.IsFiled .plain .plain := by
    intro output _
    exact output.isFiled_plain
  have apart : wordsOptions.exports.Pairwise fun first second =>
      first.place? .plain wordsTree "w.in" ≠ second.place? .plain wordsTree "w.in" := by
    decide +kernel
  refine ⟨by decide +kernel, ?_⟩
  obtain ⟨_, settings, loaded, batch, same, prepares, tells⟩ :=
    (tellsStory_execute read filed wordsTree).1 (by decide +kernel)
  cases same
  exact ⟨settings, loaded, batch, prepares, tells apart⟩

end Acceptor.CommandLine
