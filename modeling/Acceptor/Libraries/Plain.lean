import Acceptor.Formula.Title
import Acceptor.Libraries
import Acceptor.Text.Lowercase

/-!
Libraries with nothing installed beside them and nothing set up for their user.

A path is that of the file, as it stands, and a table goes there as text.  A title is read for
formulas without any help from outside.
-/

namespace Acceptor.Tree

def libraryFault (error : AccessError) : LibraryFault where
  family := error.family
  message := error.message

def noDirectory (directory : Path) : LibraryFault where
  family := .system
  message :=
    "Cannot save file into a non-existent directory: '" ++ directory.toString ++ "'"

/-- Writes a table.  The directory has to be there. -/
def writeTable (tree : Tree) (rows : List Frame.Row) (path : String) :
    Except LibraryFault Tree := do
  let directory := (Path.ofString path).parent
  if !(← (tree.holdsDirectory directory).mapError libraryFault) then
    throw (noDirectory directory)
  (tree.write path (.ofText (Frame.csv rows))).mapError libraryFault

def pictureFormats : List String :=
  ["avif", "eps", "gif", "jpeg", "jpg", "pdf", "pgf", "png", "ps", "raw", "rgba", "svg",
    "svgz", "tif", "tiff", "webp"]

def unknownFormat (format : String) : LibraryFault where
  family := .value
  message :=
    "Format " ++ Text.quote format ++ " is not supported (supported formats: " ++
      ", ".intercalate pictureFormats ++ ")"

/-- The format that the path of a picture asks for: what follows the last dot of its last
name, unless only dots stand before it. -/
def pictureFormat (path : String) : List Char :=
  let name := ((Path.allNames path).getLast?.getD "").toList
  let (stem, ending) := Path.splitEnding name
  if stem.all (· = '.') then [] else ending.drop 1

/-- The path of a picture, if its format, in small letters, is one that can be written.
Without a format it is `png`. -/
def pictureTarget (path : String) : Except LibraryFault String :=
  match pictureFormat path with
  | [] => .ok (String.ofList ((path.toList.reverse.dropWhile (· = '.')).reverse) ++ ".png")
  | format =>
      let format := String.ofList (Text.lowercase format)
      if format ∈ pictureFormats then .ok path else .error (unknownFormat format)

def unreadTitle (fault : Formula.Fault) : LibraryFault where
  family := .value
  message := fault.message

/-- Writes a picture of a chart.  The title is read for formulas before the path is looked
at, but for its format. -/
def writePicture (tree : Tree) (chart : Summary.Chart) (path : String) :
    Except LibraryFault Tree := do
  let path ← pictureTarget path
  if let some fault := Formula.Title.fault? chart.title then
    throw (unreadTitle fault)
  (tree.write path (.picture chart)).mapError libraryFault

end Acceptor.Tree

namespace Acceptor

def Libraries.plain : Libraries where
  writeTable := Tree.writeTable
  writePicture := Tree.writePicture

end Acceptor
