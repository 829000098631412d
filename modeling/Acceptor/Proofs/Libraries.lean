import Acceptor.Libraries.Plain
import Acceptor.Proofs.Result
import Acceptor.Proofs.Text.Utf8

/-!
What can be relied on when a library puts a table or a picture into a file.

A library writes one file.  It may take another path for it than the one it is given, and it may
pack the text of a table, but the text can be got back.
-/

namespace Acceptor.Libraries

/-- The files that libraries write: the path of the file that is meant by a path, and the text of a
table that is got back from what its file holds. -/
structure Files where
  table : String → String
  picture : String → String
  unpack : String → Content → Option String

/-- Whenever the library succeeds, it has written one file, from which the text of the table is got
back. -/
def WritesTable (libraries : Libraries) (files : Files) (path : String) : Prop :=
  ∀ tree rows after, libraries.writeTable tree rows path = .ok after →
    ∃ content, files.unpack path content = some (Frame.csv rows) ∧
      tree.write (files.table path) content = .ok after

def WritesPicture (libraries : Libraries) (files : Files) (path : String) : Prop :=
  ∀ tree chart after, libraries.writePicture tree chart path = .ok after →
    ∃ content, tree.write (files.picture path) content = .ok after

/-! ## Plain libraries -/

/-- Plain libraries write to the path that they are given, and pack nothing. -/
def Files.plain : Files where
  table path := path
  picture path := (Tree.pictureTarget path).toOption.getD path
  unpack
    | _, .bytes bytes => (Text.Utf8.decode bytes).toOption.map String.ofList
    | _, .picture _ => none

theorem Files.plain_unpack_ofText (path text : String) :
    Files.plain.unpack path (.ofText text) = some text := by
  simp [Files.plain, Content.ofText, Text.Utf8.decode_encode, Except.toOption]

theorem plain_writesTable (path : String) : plain.WritesTable .plain path := by
  intro tree rows after written
  obtain ⟨inDirectory, _, written⟩ := Except.bind_eq_ok_iff.mp written
  split at written
  · cases written
  · exact ⟨_, Files.plain_unpack_ofText path _, Except.mapError_eq_ok_iff.mp written⟩

theorem plain_writesPicture (path : String) : plain.WritesPicture .plain path := by
  intro tree chart after written
  obtain ⟨target, found, written⟩ := Except.bind_eq_ok_iff.mp written
  dsimp only at written
  split at written
  · cases written
  · have meant : Files.plain.picture path = target := by
      simp [Files.plain, found, Except.toOption]
    rw [← meant] at written
    exact ⟨_, Except.mapError_eq_ok_iff.mp written⟩

end Acceptor.Libraries
