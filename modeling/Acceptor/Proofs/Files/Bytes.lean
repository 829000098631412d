import Acceptor.Proofs.Definition.Descendants
import Acceptor.Proofs.Definition.Rows
import Acceptor.Proofs.Files.Input
import Acceptor.Proofs.Text.WellFormed

/-!
What comes of reading a file, whatever bytes it holds.

A definition and an input file are read as a text first, so both fail on the same bytes.  The text
is that of the bytes, with all ends of lines alike; a definition says the same with either.
-/

namespace Acceptor

variable {tree : Tree} {path : String} {place : List String} {bytes : List UInt8}
  {failure : Failure} {file : DefinitionFile}

/-! ## Ends of lines -/

theorem Draft.ofText_unifyNewlines (marker : CommentMarker) (text : String) :
    ofText marker (String.ofList (Text.unifyNewlines text.toList)) = ofText marker text := by
  have sameRows : Text.rows (String.ofList (Text.unifyNewlines text.toList)) = Text.rows text := by
    rw [Text.rows, Text.rows, String.toList_ofList, Text.unifyNewlines_unifyNewlines]
  rw [ofText_eq_ofRows, ofText_eq_ofRows, sameRows]

theorem Definition.loadBy_unifyNewlines (descendants : Digraph → String → List String)
    (marker : CommentMarker) (policy : Policy) (text : String) :
    loadBy descendants marker policy (String.ofList (Text.unifyNewlines text.toList)) =
      loadBy descendants marker policy text := by
  rw [loadBy, loadBy, Draft.ofText_unifyNewlines]

namespace Tree

/-! ## Definitions and input files -/

theorem readDefinition_eq_ok_iff :
    tree.readDefinition path = .ok file ↔
      file.filename = (Path.ofString path).name ∧ tree.readText path = .ok file.content := by
  obtain ⟨filename, content⟩ := file
  rw [readDefinition, Except.bind_eq_ok_iff]
  constructor
  · rintro ⟨_, read, made⟩
    cases made
    exact ⟨rfl, read⟩
  · rintro ⟨rfl, read⟩
    exact ⟨content, read, rfl⟩

theorem readDefinition_eq_error_iff :
    tree.readDefinition path = .error failure ↔ tree.readText path = .error failure := by
  rw [readDefinition, Except.bind_eq_error_iff, or_iff_left]
  rintro ⟨_, _, made⟩
  cases made

theorem readInput_eq_error_iff :
    tree.readInput path = .error failure ↔ tree.readText path = .error failure := by
  rw [readInput, Except.bind_eq_error_iff, or_iff_left]
  rintro ⟨_, _, made⟩
  cases made

/-! ## Bytes -/

/-- A definition is read of well-formed bytes and no others, and an input file is read of the
same. -/
structure ReadsBytes (tree : Tree) (path : String) (bytes : List UInt8) : Prop where
  exists_ok_iff : (∃ file, tree.readDefinition path = .ok file) ↔ Text.Utf8.IsWellFormed bytes
  ok_iff : ∀ file, tree.readDefinition path = .ok file ↔
    file.filename = (Path.ofString path).name ∧ ∃ text : String,
      bytes.toByteArray = text.toByteArray ∧
        file.content = String.ofList (Text.unifyAtOnce text.toList)
  exists_file : ∀ text : String, bytes.toByteArray = text.toByteArray →
    ∃ file, tree.readDefinition path = .ok file ∧
      file.content = String.ofList (Text.unifyNewlines text.toList) ∧
      ∀ descendants marker policy,
        Definition.loadBy descendants marker policy file.content =
          Definition.loadBy descendants marker policy text
  error_iff : ∀ failure, tree.readDefinition path = .error failure ↔
    ¬ Text.Utf8.IsWellFormed bytes ∧ ∃ offset, Text.Utf8.IsWellFormedUpTo bytes offset ∧
      failure = .notText path offset
  family_eq : ∀ failure, tree.readDefinition path = .error failure → failure.family = .value
  input_error_iff : ∀ failure, tree.readInput path = .error failure ↔
    tree.readDefinition path = .error failure

section
variable (stores : tree.StoresAt path place (.bytes bytes))
include stores

theorem readText_bytes_eq_ok_iff {content : String} :
    tree.readText path = .ok content ↔ ∃ text : String,
      bytes.toByteArray = text.toByteArray ∧
        content = String.ofList (Text.unifyNewlines text.toList) := by
  rw [readText_of_storesAt_bytes stores, Except.map_eq_ok_iff]
  constructor
  · rintro ⟨text, read, rfl⟩
    have isText := Text.Utf8.decode_eq_ok_iff.mp (Except.mapError_eq_ok_iff.mp read)
    refine ⟨String.ofList text, Text.Utf8.toByteArray_eq_iff.mpr ?_, ?_⟩
    · rw [String.toList_ofList, isText]
    · rw [String.toList_ofList]
  · rintro ⟨text, isText, rfl⟩
    refine ⟨text.toList, Except.mapError_eq_ok_iff.mpr ?_, rfl⟩
    exact Text.Utf8.decode_eq_ok_iff.mpr (Text.Utf8.toByteArray_eq_iff.mp isText)

theorem readText_bytes_eq_error_iff :
    tree.readText path = .error failure ↔ ¬ Text.Utf8.IsWellFormed bytes ∧
      ∃ offset, Text.Utf8.IsWellFormedUpTo bytes offset ∧ failure = .notText path offset := by
  rw [readText_of_storesAt_bytes stores, Except.map_eq_error_iff, Except.mapError_eq_error_iff]
  constructor
  · rintro ⟨offset, failed, rfl⟩
    obtain ⟨illFormed, upTo⟩ := Text.Utf8.decode_eq_error_iff.mp failed
    exact ⟨illFormed, offset, upTo, rfl⟩
  · rintro ⟨illFormed, offset, upTo, rfl⟩
    exact ⟨offset, Text.Utf8.decode_eq_error_iff.mpr ⟨illFormed, upTo⟩, rfl⟩

/-- What is read of a file depends on its bytes as the rules of well-formed bytes say. -/
theorem readsBytes_of_storesAt : ReadsBytes tree path bytes where
  exists_ok_iff := by
    constructor
    · rintro ⟨file, read⟩
      obtain ⟨text, isText, _⟩ :=
        (readText_bytes_eq_ok_iff stores).mp (readDefinition_eq_ok_iff.mp read).2
      exact Text.Utf8.isWellFormed_iff.mpr ⟨_, Text.Utf8.toByteArray_eq_iff.mp isText⟩
    · intro wellFormed
      cases read : tree.readDefinition path with
      | ok file => exact ⟨file, rfl⟩
      | error failure =>
          have failed := readDefinition_eq_error_iff.mp read
          exact absurd wellFormed ((readText_bytes_eq_error_iff stores).mp failed).1
  ok_iff := by
    intro file
    rw [readDefinition_eq_ok_iff, readText_bytes_eq_ok_iff stores]
    simp only [Text.unifyNewlines_eq_unifyAtOnce]
  exists_file := by
    intro text isText
    have read := (readText_bytes_eq_ok_iff stores).mpr ⟨text, isText, rfl⟩
    refine ⟨⟨_, _⟩, readDefinition_eq_ok_iff.mpr ⟨rfl, read⟩, rfl, ?_⟩
    intro descendants marker policy
    exact Definition.loadBy_unifyNewlines descendants marker policy text
  error_iff := by
    intro failure
    rw [readDefinition_eq_error_iff, readText_bytes_eq_error_iff stores]
  family_eq := by
    intro failure failed
    obtain ⟨_, offset, _, rfl⟩ :=
      (readText_bytes_eq_error_iff stores).mp (readDefinition_eq_error_iff.mp failed)
    rfl
  input_error_iff := by
    intro failure
    rw [readInput_eq_error_iff, readDefinition_eq_error_iff]

end

def surrogateBytes : List UInt8 :=
  [0x73, 0xC3, 0xA9, 0x0D, 0x0A, 0xED, 0xA0, 0x80]

def surrogateTree : Tree :=
  ({} : Tree).putFile ["d.dfa"] (.bytes surrogateBytes)

theorem readsBytes_surrogateTree :
    surrogateTree.StoresAt "d.dfa" ["d.dfa"] (.bytes surrogateBytes) ∧
      ReadsBytes surrogateTree "d.dfa" surrogateBytes ∧
        surrogateTree.readInput "d.dfa" = .error (.notText "d.dfa" 5) := by
  have stores : surrogateTree.StoresAt "d.dfa" ["d.dfa"] (.bytes surrogateBytes) := by rfl
  have reads := readsBytes_of_storesAt stores
  have stuck : Text.Utf8.firstChar? [0xED, 0xA0, 0x80] = none := by decide
  have upTo : Text.Utf8.IsWellFormedUpTo surrogateBytes 5 :=
    @Text.Utf8.isWellFormedUpTo_of_stuck _ ['s', 'é', '\r', '\n'] stuck
  have illFormed : ¬ Text.Utf8.IsWellFormed surrogateBytes := by
    intro wellFormed
    have bound : surrogateBytes.length ≤ 5 :=
      upTo.2 ⟨surrogateBytes, List.prefix_rfl, wellFormed, rfl⟩
    exact absurd bound (by decide)
  refine ⟨stores, reads, (reads.input_error_iff _).mpr ?_⟩
  exact (reads.error_iff _).mpr ⟨illFormed, 5, upTo, rfl⟩

end Tree

end Acceptor
