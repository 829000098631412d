import Acceptor.CommandLine.Arguments

/-!
The commands `check` and `run`, and the arguments that call them.
-/

namespace Acceptor.CommandLine

inductive Key where
  | help
  | verbose
  | strict
  | comment
  | workers
  | save
  | json
  | csv
  | plot
  | progress
  deriving DecidableEq, Repr

def helpSwitch : Switch Key :=
  { key := .help, names := ["-h", "--help"], isLast := true }

def commonSwitches : List (Switch Key) :=
  [helpSwitch,
    { key := .verbose, names := ["-v", "--verbose"] },
    { key := .strict, names := ["--strict"] },
    { key := .comment, names := ["--comment"], value := .text }]

/-- The switches that only `run` has. -/
def runSwitches : List (Switch Key) :=
  [{ key := .workers, names := ["-w", "--workers"], value := .number },
    { key := .save, names := ["--save"] },
    { key := .json, names := ["--json"], value := .text },
    { key := .csv, names := ["--csv"], value := .text },
    { key := .plot, names := ["--plot"], value := .text },
    { key := .progress, names := ["--progress"] }]

structure Options where
  verbose : Bool := false
  strict : Bool := false
  comment : String := "#"
  /-- How many workers; nothing if the switch stands without a number. -/
  workers? : Option Int := some 1
  save : Bool := false
  json? : Option String := none
  csv? : Option String := none
  plot? : Option String := none
  progress : Bool := false
  deriving DecidableEq, Repr

/-- Adds what a switch asks for; of repeated switches the last counts, also one that has
no value. -/
def Options.add (options : Options) : Key × Option String → Options
  | (.help, _) => options
  | (.verbose, _) => { options with verbose := true }
  | (.strict, _) => { options with strict := true }
  | (.comment, text?) => { options with comment := text?.getD "" }
  | (.workers, text?) =>
      { options with workers? := text?.bind fun text => Text.whole? text.toList }
  | (.save, _) => { options with save := true }
  | (.json, path?) => { options with json? := path? }
  | (.csv, path?) => { options with csv? := path? }
  | (.plot, path?) => { options with plot? := path? }
  | (.progress, _) => { options with progress := true }

def Options.ofSwitches (switches : List (Key × Option String)) : Options :=
  switches.foldl Options.add {}

/-- A command and the files that it works on; the input file of `run` may be left void. -/
inductive Command where
  | check (definition : String)
  | run (definition : String) (input? : Option String)
  deriving DecidableEq, Repr

structure Invocation where
  command : Command
  options : Options
  deriving DecidableEq, Repr

inductive Refusal where
  /-- Only help was asked for. -/
  | help
  /-- Something is wrong with the arguments; `speaker` says who complains. -/
  | complaint (speaker : String) (reason : Complaint)
  deriving DecidableEq, Repr

def Refusal.message : Refusal → String
  | .help => ""
  | .complaint speaker reason => speaker ++ ": error: " ++ reason.message

def program : String := "dfalab"

def commands : List String := ["check", "run"]

def complain (command : String) (complaint : Complaint) : Refusal :=
  .complaint (if command = "" then program else program ++ " " ++ command) complaint

def refuseExtras (extras : List String) (invocation : Invocation) :
    Except Refusal Invocation :=
  if extras = [] then .ok invocation else .error (complain "" (.unrecognized extras))

/-- Reads the arguments after the name of a command; `extras` are those passed over before
it. -/
def readCommand (extras : List String) (command : String) (arguments : List String) :
    Except Refusal Invocation :=
  let read (switches : List (Switch Key)) (operands : List String) :=
    (parse switches operands arguments).mapError (complain command)
  match command with
  | "check" => do
      let parsed ← read commonSwitches ["definition"]
      match parsed.ended, parsed.operands with
      | false, [some definition] =>
          refuseExtras (extras ++ parsed.extras)
            { command := .check definition, options := .ofSwitches parsed.switches }
      | _, _ => throw .help
  | "run" => do
      let parsed ← read (commonSwitches ++ runSwitches) ["definition", "input"]
      match parsed.ended, parsed.operands with
      | false, [some definition, input?] =>
          refuseExtras (extras ++ parsed.extras)
            { command := .run definition input?, options := .ofSwitches parsed.switches }
      | _, _ => throw .help
  | other => .error (complain "" (.unknownCommand other commands))

def readArguments (extras : List String) : List String → Except Refusal Invocation
  | [] => .error (complain "" (.missing ["command"]))
  | argument :: rest =>
      if argument = "--" then
        if rest = [] then .error (complain "" (.missing ["command"]))
        else .error (complain "" (.unknownCommand argument commands))
      else
        match classify [helpSwitch] argument.toList with
        | .error complaint => .error (complain "" complaint)
        | .ok (.switch switch name attached?) =>
            match readCluster [helpSwitch] switch name attached? with
            | .error complaint => .error (complain "" complaint)
            | .ok _ => .error .help
        | .ok .unknownSwitch => readArguments (extras ++ [argument]) rest
        | .ok _ => readCommand extras argument rest

def Invocation.ofArguments (arguments : List String) : Except Refusal Invocation :=
  readArguments [] arguments

end Acceptor.CommandLine
