import Acceptor.Files.Write
import Acceptor.Notice

/-!
Sessions: one active automaton and one input batch at a time.

Each step is a function of the session and the file tree.  A step that fails changes
neither; a load replaces its slot only after everything has been read and judged.
-/

namespace Acceptor

structure Active where
  definition : DefinitionFile
  loaded : Loaded

structure LoadedInput where
  batch : Batch
  path? : Option Path := none
  deriving DecidableEq, Repr

structure Session where
  settings : Settings
  active? : Option Active := none
  input? : Option LoadedInput := none

namespace Session

def loadDefinition (session : Session) (definition : DefinitionFile) :
    Except Failure Session :=
  match Definition.load session.settings.marker session.settings.policy definition.content with
  | .error error => .error (.definition error)
  | .ok loaded => .ok { session with active? := some { definition, loaded } }

def loadDefinitionFile (session : Session) (tree : Tree) (path : String) :
    Except Failure Session := do
  let definition ← tree.readDefinition path
  session.loadDefinition definition

def withInput (session : Session) (batch : Batch) (path? : Option Path) : Session :=
  { session with input? := some { batch, path? } }

def loadInput (session : Session) (batch : Batch) : Session :=
  session.withInput batch none

def loadInputFile (session : Session) (tree : Tree) (path : String) :
    Except Failure Session := do
  let batch ← tree.readInput path
  return session.withInput batch (some (Path.ofString path))

def run (session : Session) (batch? : Option Batch) (cancelAfter? : Option Nat) :
    Except Failure Report :=
  match session.active? with
  | none => .error .noAutomaton
  | some active =>
      match batch?.or (session.input?.map LoadedInput.batch) with
      | none => .error .noInput
      | some batch =>
          .ok (batch.run active.loaded.automaton session.settings.workers cancelAfter?)

/-- The path that verdicts are written to: the given one, or else the one beside the input
file. -/
def outputPath (session : Session) : Option Path → Except Failure Path
  | some path => .ok path
  | none =>
      match session.input?.bind LoadedInput.path? with
      | none => .error .noInputFile
      | some path => path.verdictPath.mapError Failure.emptyName

def save (session : Session) (tree : Tree) (report : Report) (path? : Option Path) :
    Except Failure (Path × Tree) := do
  let path ← session.outputPath path?
  let tree ← tree.writeVerdicts report path
  return (path, tree)

/-- A step of a session, or a change that something else makes to its files. -/
inductive Step where
  | loadDefinition (definition : DefinitionFile)
  | loadDefinitionFile (path : String)
  | loadInput (batch : Batch)
  | loadInputFile (path : String)
  | run (batch? : Option Batch) (cancelAfter? : Option Nat)
  | save (report : Report) (path? : Option Path)
  | install (path : Path) (content : Content)
  | installDirectory (path : Path)

inductive Answer where
  | definition (active : Active)
  | input (batch : Batch)
  | report (report : Report)
  | saved (path : Path)
  | done

/-- A session among files, with what has been noted. -/
structure World where
  session : Session
  tree : Tree
  notices : List Notice := []

def loadedNotice (active : Active) : Notice :=
  .definitionLoaded active.definition.filename active.loaded.automaton.states.length
    active.loaded.automaton.alphabet.length active.loaded.warnings.length

def loadNotices (session : Session) (definition : DefinitionFile) : List Notice :=
  Notice.ofDefinition session.settings.marker session.settings.policy definition.content ++
    match (session.loadDefinition definition).toOption.bind Session.active? with
    | none => []
    | some active => [loadedNotice active]

def readNotice (path : String) (definition : DefinitionFile) : Notice :=
  .readDefinition path definition.content.length

def loadAnswer (session : Session) : Answer :=
  match session.active? with
  | some active => .definition active
  | none => .done

/-- Takes a step: what comes of it, what is noted, and the session and files afterwards. -/
def take (session : Session) (tree : Tree) : Step → Except Failure Answer × World
  | .loadDefinition definition =>
      let notices := session.loadNotices definition
      match session.loadDefinition definition with
      | .error failure => (.error failure, { session, tree, notices })
      | .ok session => (.ok session.loadAnswer, { session, tree, notices })
  | .loadDefinitionFile path =>
      match tree.readDefinition path with
      | .error failure => (.error failure, { session, tree })
      | .ok definition =>
          let notices := readNotice path definition :: session.loadNotices definition
          match session.loadDefinition definition with
          | .error failure => (.error failure, { session, tree, notices })
          | .ok session => (.ok session.loadAnswer, { session, tree, notices })
  | .loadInput batch =>
      (.ok (.input batch), { session := session.loadInput batch, tree })
  | .loadInputFile path =>
      match tree.readInput path with
      | .error failure => (.error failure, { session, tree })
      | .ok batch =>
          (.ok (.input batch),
            { session := session.withInput batch (some (Path.ofString path))
              tree
              notices := [.readInput batch.lines.length path] })
  | .run batch? cancelAfter? =>
      match session.run batch? cancelAfter? with
      | .error failure => (.error failure, { session, tree })
      | .ok report =>
          (.ok (.report report), { session, tree, notices := [.ofReport report] })
  | .save report path? =>
      match session.save tree report path? with
      | .error failure => (.error failure, { session, tree })
      | .ok (path, tree) =>
          (.ok (.saved path),
            { session, tree
              notices := [.verdictsWritten report.verdicts.length path.toString] })
  | .install path content => (.ok .done, { session, tree := tree.install path content })
  | .installDirectory path => (.ok .done, { session, tree := tree.installDirectory path })

def takeAll (world : World) : List Step → List (Except Failure Answer) × World
  | [] => ([], world)
  | step :: rest =>
      let (result, next) := world.session.take world.tree step
      let (results, last) := takeAll { next with notices := world.notices ++ next.notices } rest
      (result :: results, last)

end Session

end Acceptor
