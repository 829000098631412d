import Acceptor.Failure

/-!
What is left to libraries: putting tables and pictures into files.

The program hands over what is to be shown, and a path.  What file is meant by the path, in which
form it is written and what is refused is the business of the library.
-/

namespace Acceptor

structure Libraries where
  writeTable (tree : Tree) (rows : List Frame.Row) (path : String) : Except LibraryFault Tree
  writePicture (tree : Tree) (chart : Summary.Chart) (path : String) : Except LibraryFault Tree

end Acceptor
