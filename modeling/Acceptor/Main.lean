import Acceptor.CommandLine.Run

/-!
The program.  It looks at the files that its arguments name, carries out the command on
the tree made of them, and writes what has changed.
-/

namespace Acceptor.Main

open CommandLine

def absolute (place : List String) : String :=
  "/" ++ "/".intercalate place

def look (path : String) : IO (Option Node) := do
  try
    let bytes ← IO.FS.readBinFile path
    return some (.file (.bytes bytes.toList))
  catch error =>
    match error with
    | .inappropriateType .. => return some .directory
    | _ => return none

def observe (tree : Tree) (place : List String) : List String → IO Tree
  | [] => return tree
  | name :: rest => do
      if name = "" ∨ name = "." then
        observe tree place rest
      else if name = ".." then
        observe tree place.dropLast rest
      else
        let place := place ++ [name]
        match ← look (absolute place) with
        | none => return tree
        | some .directory => observe (tree.putDirectories [] place) place rest
        | some (.file content) => return tree.putFile place content

def mentioned (invocation : Invocation) : List String :=
  let options := invocation.options
  let written := [options.json?, options.csv?, options.plot?].filterMap id
  match invocation.command with
  | .check definition => definition :: written
  | .run definition input? =>
      let verdicts? := input?.bind fun input =>
        (Path.ofString input).verdictPath.toOption.map Path.toString
      definition :: written ++ input?.toList ++ verdicts?.toList

def survey (arguments : List String) : IO Tree := do
  let home := (Path.ofString (← IO.currentDir).toString).names
  let tree := Tree.ofHome home
  match Invocation.ofArguments arguments with
  | .error _ => return tree
  | .ok invocation =>
      (mentioned invocation).foldlM
        (fun tree path => observe tree (tree.startOf path) (Path.allNames path)) tree

/-- The bytes of a file.  Of a picture its bars are written, one on a line. -/
def fileBytes : Content → List UInt8
  | .bytes bytes => bytes
  | .picture chart =>
      Text.Utf8.encode (String.join (chart.bars.map fun bar =>
        bar.label ++ " " ++ toString bar.height ++ " " ++ bar.colour ++ "\n")).toList

end Acceptor.Main

open Acceptor in
def main (arguments : List String) : IO UInt32 := do
  let before ← Main.survey arguments
  let outcome := CommandLine.execute arguments before
  IO.print outcome.transcript.stdout
  IO.eprint outcome.transcript.stderr
  for (place, content) in outcome.transcript.tree.changes before do
    IO.FS.writeBinFile (Main.absolute place) ⟨(Main.fileBytes content).toArray⟩
  match outcome.ending with
  | .exit code => return code.toUInt32
  | .failed failure =>
      IO.eprintln failure.message
      return 1
