import Acceptor.Proofs.CommandLine.Transcript
import Acceptor.Proofs.Files.Places
import Acceptor.Proofs.Libraries

/-!
The files that a run writes.

`Export.Writes` says all that the writing of one file does.  What each of these steps keeps is
kept by the whole sequence, whether it ends early or not.
-/

namespace Acceptor.CommandLine

/-- The path of the file that is meant; that of the verdict file belongs to the input file. -/
def Export.path? (files : Libraries.Files) (input : String) : Export → Option String
  | .verdicts => (Path.ofString input).verdictPath.toOption.map Path.toString
  | .report path => some path
  | .frame path => some (files.table path)
  | .picture path => some (files.picture path)

def Export.place? (files : Libraries.Files) (tree : Tree) (input : String) (output : Export) :
    Option (List String) :=
  (output.path? files input).bind tree.place?

/-- What a file may hold.  Nothing is said of the bytes of a picture. -/
def Export.Shows (files : Libraries.Files) (batch : Batch) (report : Report) (content : Content) :
    Export → Prop
  | .verdicts => report.output.toOption.map Content.ofText = some content
  | .report _ => .ofText report.toJson.print = content
  | .frame path => ∃ rows, Frame.rows report (some batch) = .ok rows ∧
      files.unpack path content = some (Frame.csv rows)
  | .picture _ => True

/-- What is left to libraries is written to a file. -/
def Export.IsFiled (libraries : Libraries) (files : Libraries.Files) : Export → Prop
  | .verdicts | .report _ => True
  | .frame path => libraries.WritesTable files path
  | .picture path => libraries.WritesPicture files path

theorem Export.isFiled_plain (output : Export) : output.IsFiled .plain .plain := by
  cases output with
  | verdicts => trivial
  | report _ => trivial
  | frame path => exact Libraries.plain_writesTable path
  | picture path => exact Libraries.plain_writesPicture path

def Export.StandsIn (files : Libraries.Files) (tree : Tree) (input : String) (batch : Batch)
    (report : Report) (output : Export) : Prop :=
  ∃ path found content, output.path? files input = some path ∧
    output.Shows files batch report content ∧ tree.StoresAt path found content

def Export.Writes (files : Libraries.Files) (input : String) (batch : Batch) (report : Report)
    (output : Export) (before after : Tree) : Prop :=
  ∃ path content, output.path? files input = some path ∧
    output.Shows files batch report content ∧ before.write path content = .ok after

variable {libraries : Libraries} {files : Libraries.Files} {options : Options}
  {session : Session} {input : String} {batch : Batch} {report : Report} {output : Export}
  {outputs : List Export} {before after transcript : Transcript}

/-- Nothing is said of a file that is written, unless it is the verdict file. -/
theorem after_of_writeExport
    (wrote : writeExport libraries options session batch report before output = .ok after) :
    ∃ tree, after = { before with tree } ∨ output = .verdicts ∧ ∃ path,
      after = ({ before with tree }.log options.verbose
        [.verdictsWritten report.verdicts.length path]).print ["wrote " ++ path] := by
  cases output with
  | verdicts =>
      obtain ⟨⟨path, tree⟩, _, wrote⟩ := Except.bind_eq_ok_iff.mp wrote
      cases wrote
      exact ⟨tree, .inr ⟨rfl, _, rfl⟩⟩
  | report path | picture path =>
      obtain ⟨tree, _, wrote⟩ := Except.bind_eq_ok_iff.mp wrote
      cases wrote
      exact ⟨tree, .inl rfl⟩
  | frame path =>
      obtain ⟨rows, _, wrote⟩ := Except.bind_eq_ok_iff.mp wrote
      obtain ⟨tree, _, wrote⟩ := Except.bind_eq_ok_iff.mp wrote
      cases wrote
      exact ⟨tree, .inl rfl⟩

theorem stderr_of_writeExport (quiet : options.verbose = false)
    (wrote : writeExport libraries options session batch report before output = .ok after) :
    after.stderr = before.stderr := by
  obtain ⟨tree, rfl | ⟨_, path, rfl⟩⟩ := after_of_writeExport wrote
  · rfl
  · rw [stderr_print, quiet, log_of_forall]
    simp [Notice.isUrgent, Notice.level]

theorem stdout_of_writeExport
    (wrote : writeExport libraries options session batch report before output = .ok after) :
    ∃ rest, after.stdout = before.stdout ++ rest := by
  obtain ⟨tree, rfl | ⟨_, path, rfl⟩⟩ := after_of_writeExport wrote
  · exact ⟨"", String.append_empty.symm⟩
  · exact ⟨_, rfl⟩

theorem writes_of_writeExport (filed : output.IsFiled libraries files)
    (loaded : session.input? = some { batch, path? := some (Path.ofString input) })
    (wrote : writeExport libraries options session batch report before output = .ok after) :
    output.Writes files input batch report before.tree after.tree := by
  cases output with
  | verdicts =>
      obtain ⟨⟨path, tree⟩, saved, wrote⟩ := Except.bind_eq_ok_iff.mp wrote
      cases wrote
      obtain ⟨place, placed, saved⟩ := Except.bind_eq_ok_iff.mp saved
      obtain ⟨tree, stored, saved⟩ := Except.bind_eq_ok_iff.mp saved
      cases saved
      obtain ⟨text, given, stored⟩ := Except.bind_eq_ok_iff.mp stored
      simp only [Session.outputPath, loaded, Option.bind_some] at placed
      refine ⟨path.toString, .ofText text, ?_, ?_, Except.mapError_eq_ok_iff.mp stored⟩
      · rw [Export.path?, Except.mapError_eq_ok_iff.mp placed]
        rfl
      · rw [Export.Shows, Except.mapError_eq_ok_iff.mp given]
        rfl
  | report path =>
      obtain ⟨tree, stored, wrote⟩ := Except.bind_eq_ok_iff.mp wrote
      cases wrote
      exact ⟨path, _, rfl, rfl, Except.mapError_eq_ok_iff.mp stored⟩
  | frame path =>
      obtain ⟨rows, made, wrote⟩ := Except.bind_eq_ok_iff.mp wrote
      obtain ⟨tree, stored, wrote⟩ := Except.bind_eq_ok_iff.mp wrote
      cases wrote
      obtain ⟨content, unpacked, written⟩ := filed _ _ _ (Except.mapError_eq_ok_iff.mp stored)
      exact ⟨_, content, rfl, ⟨rows, Except.mapError_eq_ok_iff.mp made, unpacked⟩, written⟩
  | picture path =>
      obtain ⟨tree, stored, wrote⟩ := Except.bind_eq_ok_iff.mp wrote
      cases wrote
      obtain ⟨content, written⟩ := filed _ _ _ (Except.mapError_eq_ok_iff.mp stored)
      exact ⟨_, content, rfl, trivial, written⟩

/-! ## What writing a file keeps -/

/-- All paths still lead where they led, and what stands at a place still stands there. -/
structure Keeps (tree : Tree) (place : List String) (now : Tree) : Prop where
  place?_eq : ∀ path, now.place? path = tree.place? path
  node?_eq : now.node? place = tree.node? place

theorem Keeps.refl (tree : Tree) (place : List String) : Keeps tree place tree :=
  ⟨fun _ => rfl, rfl⟩

theorem Keeps.export_place?_eq {tree now : Tree} {place : List String}
    (keeps : Keeps tree place now) (output : Export) :
    output.place? files now input = output.place? files tree input := by
  rw [Export.place?, Export.place?, funext keeps.place?_eq]

theorem Keeps.storesAt {tree now : Tree} {path : String} {place : List String} {content : Content}
    (keeps : Keeps tree place now) (stores : tree.StoresAt path place content) :
    now.StoresAt path place content := by
  rw [Tree.storesAt_iff, keeps.place?_eq, keeps.node?_eq]
  exact Tree.storesAt_iff.mp stores

section

variable {before after : Tree}

theorem Keeps.of_writes {tree : Tree} {place : List String} (keeps : Keeps tree place before)
    (elsewhere : output.place? files tree input ≠ some place)
    (writes : output.Writes files input batch report before after) : Keeps tree place after := by
  obtain ⟨path, content, isPath, _, written⟩ := writes
  rw [← keeps.export_place?_eq, Export.place?, isPath, Option.bind_some] at elsewhere
  constructor
  · intro other
    rw [Tree.place?_of_write written, keeps.place?_eq]
  · rw [Tree.node?_of_write written elsewhere, keeps.node?_eq]

theorem Export.Writes.place?_eq (writes : output.Writes files input batch report before after)
    (other : Export) : other.place? files after input = other.place? files before input := by
  obtain ⟨path, content, _, _, written⟩ := writes
  rw [Export.place?, Export.place?, funext (Tree.place?_of_write written)]

/-- A file that has been written stands at its place. -/
theorem Export.Writes.storesAt (writes : output.Writes files input batch report before after) :
    ∃ path found content, output.path? files input = some path ∧
      output.Shows files batch report content ∧
      output.place? files before input = some found ∧ after.StoresAt path found content := by
  obtain ⟨path, content, isPath, isContent, written⟩ := writes
  obtain ⟨found, placed, _, _, stores⟩ := Tree.exists_place_of_write written
  refine ⟨path, found, content, isPath, isContent, ?_, stores⟩
  rw [Export.place?, isPath, Option.bind_some, placed]

end

/-! ## All files of a run -/

/-- What each file that is written keeps, and a complaint about one that cannot be written, is kept
to the end. -/
theorem holds_writeExports (Holds : Transcript → Prop)
    (complained : ∀ transcript lines, Holds transcript → Holds (transcript.complain lines))
    (step : ∀ output ∈ outputs, ∀ before after,
      writeExport libraries options session batch report before output = .ok after →
        Holds before → Holds after)
    (here : Holds transcript) :
    Holds (writeExports libraries options session batch report transcript outputs).transcript := by
  induction outputs generalizing transcript with
  | nil => exact here
  | cons output rest inductionHypothesis =>
      obtain ⟨stepHere, stepLater⟩ := List.forall_mem_cons.mp step
      unfold writeExports
      split
      next failure failed =>
        rcases conclude_eq transcript failure with reported | failed
        · rw [reported]
          exact complained _ _ here
        · rw [failed]
          exact here
      next after wrote => exact inductionHypothesis stepLater (stepHere _ _ wrote here)

theorem stdout_writeExports (libraries : Libraries) (options : Options) (session : Session)
    (batch : Batch) (report : Report) (transcript : Transcript) (outputs : List Export) :
    ∃ rest, (writeExports libraries options session batch report transcript
      outputs).transcript.stdout = transcript.stdout ++ rest := by
  apply holds_writeExports fun now => ∃ rest, now.stdout = transcript.stdout ++ rest
  · exact fun _ _ holds => holds
  · rintro output _ before after wrote ⟨rest, sofar⟩
    obtain ⟨more, printed⟩ := stdout_of_writeExport wrote
    exact ⟨rest ++ more, by rw [printed, sofar, String.append_assoc]⟩
  · exact ⟨"", String.append_empty.symm⟩

/-- No file is created or changed but at the places of the files that are asked for. -/
theorem keeps_writeExports {place : List String} (transcript : Transcript)
    (filed : ∀ output ∈ outputs, output.IsFiled libraries files)
    (loaded : session.input? = some { batch, path? := some (Path.ofString input) })
    (elsewhere : ∀ output ∈ outputs, output.place? files transcript.tree input ≠ some place) :
    Keeps transcript.tree place (writeExports libraries options session batch report transcript
      outputs).transcript.tree := by
  apply holds_writeExports fun now => Keeps transcript.tree place now.tree
  · exact fun _ _ holds => holds
  · intro output asked before after wrote keeps
    exact keeps.of_writes (elsewhere output asked)
      (writes_of_writeExport (filed output asked) loaded wrote)
  · exact .refl _ _

/-- If a run ends well and its files are different ones, each of them is there in the end. -/
theorem standsIn_writeExports (filed : ∀ output ∈ outputs, output.IsFiled libraries files)
    (loaded : session.input? = some { batch, path? := some (Path.ofString input) })
    (ended : (writeExports libraries options session batch report transcript outputs).ending =
      .exit 0)
    (apart : outputs.Pairwise fun first second =>
      first.place? files transcript.tree input ≠ second.place? files transcript.tree input) :
    ∀ output ∈ outputs, output.StandsIn files
      (writeExports libraries options session batch report transcript outputs).transcript.tree
      input batch report := by
  induction outputs generalizing transcript with
  | nil => exact List.forall_mem_nil _
  | cons output rest inductionHypothesis =>
      unfold writeExports at ended ⊢
      split at ended
      next failure failed => exact absurd (eq_of_ending_conclude ended) (by decide)
      next after wrote =>
        obtain ⟨filedHere, filedLater⟩ := List.forall_mem_cons.mp filed
        have writes := writes_of_writeExport filedHere loaded wrote
        obtain ⟨apartHere, apartLater⟩ := List.pairwise_cons.mp apart
        simp only [← writes.place?_eq] at apartHere apartLater
        refine List.forall_mem_cons.mpr ⟨?_, inductionHypothesis filedLater ended apartLater⟩
        obtain ⟨path, found, content, isPath, isContent, placed, stores⟩ := writes.storesAt
        have elsewhere : ∀ other ∈ rest, other.place? files after.tree input ≠ some found := by
          intro other asked same
          rw [← writes.place?_eq] at placed
          exact apartHere other asked (placed.trans same.symm)
        exact ⟨path, found, content, isPath, isContent,
          (keeps_writeExports after filedLater loaded elsewhere).storesAt stores⟩

end Acceptor.CommandLine
