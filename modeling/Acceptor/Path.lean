import Acceptor.Text.Newline

/-!
File paths as written, and the path of the verdict file beside an input file.

A path is a root and a sequence of names.  Empty names and the name `.` mean nothing and
are dropped when a path is read; `..` is kept.
-/

namespace Acceptor

/-- Where a path starts: at the working directory or at one of the two roots. -/
inductive Path.Root where
  | relative
  | slash
  /-- Two slashes, and not more, are a root of their own. -/
  | doubleSlash
  deriving DecidableEq, Repr

/-- A path without empty and idle names. -/
structure Path where
  root : Path.Root
  names : List String
  deriving DecidableEq, Repr

namespace Path

def Root.toString : Root → String
  | .relative => ""
  | .slash => "/"
  | .doubleSlash => "//"

def rootOf : List Char → Root
  | '/' :: '/' :: '/' :: _ => .slash
  | '/' :: '/' :: _ => .doubleSlash
  | '/' :: _ => .slash
  | _ => .relative

def allNames (text : String) : List String :=
  (Text.splitWhere (· == '/') text.toList).map String.ofList

def ofString (text : String) : Path where
  root := rootOf text.toList
  names := (allNames text).filter fun name => name ≠ "" ∧ name ≠ "."

/-- The path as text; the empty path is `.`. -/
def toString (path : Path) : String :=
  if path.root = .relative ∧ path.names = [] then
    "."
  else
    path.root.toString ++ String.intercalate "/" path.names

instance : ToString Path := ⟨toString⟩

def name (path : Path) : String :=
  path.names.getLast?.getD ""

def parent (path : Path) : Path :=
  { path with names := path.names.dropLast }

/-- What stands before the last dot of a name and the ending from that dot on.  A dot at
either end of a name starts no ending. -/
def splitEnding (name : List Char) : List Char × List Char :=
  let tail := (name.reverse.takeWhile (· ≠ '.')).reverse
  let stem := name.take (name.length - tail.length - 1)
  if tail = [] ∨ stem = [] ∨ tail.length = name.length then
    (name, [])
  else
    (stem, '.' :: tail)

def renameEnding (ending : List Char) (name : String) : String :=
  String.ofList ((splitEnding name.toList).1 ++ ending)

def verdictEnding : List Char := ['.', 'o', 'u', 't']

/-- A path without names has no file to stand beside. -/
structure EmptyName where
  path : Path
  deriving DecidableEq, Repr

def verdictPath (input : Path) : Except EmptyName Path :=
  match input.names.getLast? with
  | none => .error ⟨input⟩
  | some name =>
      .ok { input with names := input.names.dropLast ++ [renameEnding verdictEnding name] }

example : (ofString "a//./b.in").verdictPath.toOption.map toString = some "a/b.out" := by
  decide +kernel

end Path

end Acceptor
