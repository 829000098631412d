import Acceptor.OrderedMap
import Acceptor.Path
import Acceptor.Report.Summary
import Acceptor.Text.Quoted
import Acceptor.Text.Utf8

/-!
File trees: directories and files below a root, one of the directories being the working
directory, and what happens when a path is followed, read or written.
-/

namespace Acceptor

/-- What a file holds: bytes, or a picture of a chart, whose bytes are left open. -/
inductive Content where
  | bytes (bytes : List UInt8)
  | picture (chart : Summary.Chart)
  deriving DecidableEq, Repr

def Content.ofText (text : String) : Content :=
  .bytes (Text.Utf8.encode text.toList)

inductive Node where
  | directory
  | file (content : Content)
  deriving DecidableEq, Repr

/-- The directories and files below a root, by the names that lead to them. -/
structure Tree where
  nodes : OrderedMap (List String) Node := .empty
  /-- The place of the working directory. -/
  home : List String := []
  deriving DecidableEq

inductive AccessError where
  | notFound (path : String)
  | isDirectory (path : String)
  | notDirectory (path : String)
  | nameTooLong (path : String)
  /-- The path holds a character that no path can hold. -/
  | nullByte
  deriving DecidableEq, Repr

def AccessError.message : AccessError → String
  | .notFound path => "[Errno 2] No such file or directory: " ++ Text.quote path
  | .isDirectory path => "[Errno 21] Is a directory: " ++ Text.quote path
  | .notDirectory path => "[Errno 20] Not a directory: " ++ Text.quote path
  | .nameTooLong path => "[Errno 36] File name too long: " ++ Text.quote path
  | .nullByte => "embedded null byte"

namespace Tree

/-- What stands at a place; the root is always there. -/
def node? (tree : Tree) (place : List String) : Option Node :=
  if place = [] then some .directory else tree.nodes.get? place

inductive Target where
  | directory
  | file (place : List String) (content : Content)
  /-- Nothing stands there, but a file could. -/
  | absent (place : List String)
  deriving DecidableEq, Repr

/-- The longest name, in bytes. -/
def maxName : Nat := 255

/-- The longest path, in bytes. -/
def maxPath : Nat := 4095

/-- Follows names from the place of a directory on; `path` is only named in errors. -/
def follow (tree : Tree) (path : String) (place : List String) :
    List String → Except AccessError Target
  | [] => .ok .directory
  | name :: rest =>
      if name = "" ∨ name = "." then
        follow tree path place rest
      else if name = ".." then
        follow tree path place.dropLast rest
      else if maxName < name.utf8ByteSize then
        .error (.nameTooLong path)
      else
        match tree.node? (place ++ [name]) with
        | some .directory => follow tree path (place ++ [name]) rest
        | some (.file content) =>
            if rest = [] then .ok (.file (place ++ [name]) content)
            else .error (.notDirectory path)
        | none =>
            if rest = [] then .ok (.absent (place ++ [name]))
            else .error (.notFound path)

def startOf (tree : Tree) (path : String) : List String :=
  if path.toList.head? = some '/' then [] else tree.home

def target (tree : Tree) (path : String) (names : List String) :
    Except AccessError Target :=
  if path.toList.contains '\x00' then .error .nullByte
  else if maxPath < path.utf8ByteSize then .error (.nameTooLong path)
  else if path = "" then .error (.notFound path)
  else follow tree path (tree.startOf path) names

def holds (tree : Tree) (path : Path) : Except AccessError Bool :=
  let text := path.toString
  match tree.target text (Path.allNames text) with
  | .ok .directory => .ok true
  | .ok (.file _ _) => .ok true
  | .ok (.absent _) => .ok false
  | .error (.nameTooLong long) => .error (.nameTooLong long)
  | .error _ => .ok false

def holdsDirectory (tree : Tree) (path : Path) : Except AccessError Bool :=
  let text := path.toString
  match tree.target text (Path.allNames text) with
  | .ok .directory => .ok true
  | .error (.nameTooLong long) => .error (.nameTooLong long)
  | _ => .ok false

def read (tree : Tree) (path : String) : Except AccessError Content :=
  match tree.target path (Path.allNames path) with
  | .error error => .error error
  | .ok .directory => .error (.isDirectory path)
  | .ok (.absent _) => .error (.notFound path)
  | .ok (.file _ content) => .ok content

def putFile (tree : Tree) (place : List String) (content : Content) : Tree :=
  { tree with nodes := tree.nodes.insert place (.file content) }

def withoutFinalSlashes (names : List String) : List String :=
  (names.reverse.dropWhile (· = "")).reverse

def write (tree : Tree) (path : String) (content : Content) : Except AccessError Tree :=
  let names := Path.allNames path
  if names.getLast? = some "" then
    -- A directory cannot be written, and no more is looked at than where it would lie.
    match tree.target path (withoutFinalSlashes names).dropLast with
    | .error error => .error error
    | .ok .directory => .error (.isDirectory path)
    | .ok (.file _ _) => .error (.notDirectory path)
    | .ok (.absent _) => .error (.notFound path)
  else
    match tree.target path names with
    | .error error => .error error
    | .ok .directory => .error (.isDirectory path)
    | .ok (.file place _) => .ok (tree.putFile place content)
    | .ok (.absent place) => .ok (tree.putFile place content)

/-- The place that a name leads to from another one; `..` leads to the one above. -/
def step (place : List String) (name : String) : List String :=
  if name = ".." then place.dropLast else place ++ [name]

/-- Makes directories, one in another, from a place on, unless they are there. -/
def putDirectories (tree : Tree) (above : List String) : List String → Tree
  | [] => tree
  | name :: rest =>
      let place := step above name
      match tree.node? place with
      | some .directory => tree.putDirectories place rest
      | _ => { tree with nodes := tree.nodes.insert place .directory }.putDirectories place rest

/-- The tree of which only the working directory and those above it are known. -/
def ofHome (home : List String) : Tree :=
  ({ home } : Tree).putDirectories [] home

/-- Puts a file at the end of a path, and the directories that it passes. -/
def install (tree : Tree) (path : Path) (content : Content) : Tree :=
  (tree.putDirectories tree.home path.names.dropLast).putFile
    (path.names.foldl step tree.home) content

/-- Puts a directory at the end of a path, and the directories that it passes. -/
def installDirectory (tree : Tree) (path : Path) : Tree :=
  tree.putDirectories tree.home path.names

/-- The files of a tree that are not in another one or have another content there. -/
def changes (after before : Tree) : List (List String × Content) :=
  after.nodes.entries.filterMap fun (place, node) =>
    match node with
    | .directory => none
    | .file content =>
        if before.node? place = some (.file content) then none else some (place, content)

end Tree

end Acceptor
