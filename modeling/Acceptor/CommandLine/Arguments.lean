import Acceptor.Text.Numeral
import Acceptor.Text.Quoted

/-!
Reading the arguments of a command.

An argument is an operand, a switch, or the divider `--`, after which everything is an
operand.  A switch may be shortened as long as it stays clear which one is meant; short
switches may be written together, and a value may stand in the same argument as its
switch.  What is neither is passed over and reported in the end.

The divider is never a value: a switch that it is attached to has none, and an operand
that it is written for is void, unless the divider stands twice in a row.
-/

namespace Acceptor.CommandLine

inductive ValueKind where
  | nothing
  | text
  | number
  deriving DecidableEq, Repr

structure Switch (Key : Type) where
  key : Key
  /-- Its names, with their dashes; short ones come first. -/
  names : List String
  value : ValueKind := .nothing
  /-- Nothing after the switch is read. -/
  isLast : Bool := false
  deriving DecidableEq, Repr

def Switch.takesValue {Key : Type} (switch : Switch Key) : Bool :=
  switch.value ≠ .nothing

def Switch.label {Key : Type} (switch : Switch Key) : String :=
  "/".intercalate switch.names

inductive Complaint where
  | ambiguous (argument : String) (candidates : List String)
  | expectedValue (switch : String)
  | ignoredValue (switch value : String)
  | notNumber (switch value : String)
  | missing (operands : List String)
  | unknownCommand (name : String) (commands : List String)
  | unrecognized (arguments : List String)
  deriving DecidableEq, Repr

def Complaint.message : Complaint → String
  | .ambiguous argument candidates =>
      "ambiguous option: " ++ argument ++ " could match " ++ ", ".intercalate candidates
  | .expectedValue switch => "argument " ++ switch ++ ": expected one argument"
  | .ignoredValue switch value =>
      "argument " ++ switch ++ ": ignored explicit argument " ++ Text.quote value
  | .notNumber switch value =>
      "argument " ++ switch ++ ": invalid int value: " ++ Text.quote value
  | .missing operands =>
      "the following arguments are required: " ++ ", ".intercalate operands
  | .unknownCommand name commands =>
      "argument command: invalid choice: " ++ Text.quote name ++ " (choose from " ++
        ", ".intercalate (commands.map Text.quote) ++ ")"
  | .unrecognized arguments => "unrecognized arguments: " ++ " ".intercalate arguments

inductive Reading (Key : Type) where
  | operand
  | divider
  /-- Looks like a switch, but is none of this command. -/
  | unknownSwitch
  /-- A switch, by one of its names, and the text attached to it. -/
  | switch (switch : Switch Key) (name : List Char) (attached? : Option (List Char))
  deriving Repr

variable {Key : Type}

def named (switches : List (Switch Key)) : List (List Char × Switch Key) :=
  switches.flatMap fun switch => switch.names.map fun name => (name.toList, switch)

def cutAtEquals (argument : List Char) : List Char × Option (List Char) :=
  match argument.dropWhile (· ≠ '=') with
  | _ :: value => (argument.takeWhile (· ≠ '='), some value)
  | [] => (argument, none)

/-- The switches that an argument may mean by one of their names, each with the name and
the text attached. -/
def candidates (switches : List (Switch Key)) (argument : List Char) :
    List (Switch Key × List Char × Option (List Char)) :=
  match argument with
  | '-' :: '-' :: _ =>
      let (stem, value?) := cutAtEquals argument
      ((named switches).filter fun (name, _) => stem.isPrefixOf name).map
        fun (name, switch) => (switch, name, value?)
  | _ =>
      (named switches).filterMap fun (name, switch) =>
        if name = argument.take 2 then some (switch, name, some (argument.drop 2))
        else if argument.isPrefixOf name then some (switch, name, none)
        else none

/-- Digits after a dash, or digits with a point among or before them. -/
def isNegativeNumber (argument : List Char) : Bool :=
  let isDigit := fun c => (Text.digitValue? c).isSome
  match argument with
  | '-' :: rest =>
      let number := if rest.getLast? = some '\n' then rest.dropLast else rest
      match number.dropWhile isDigit with
      | [] => number ≠ []
      | '.' :: fraction => fraction ≠ [] && fraction.all isDigit
      | _ => false
  | _ => false

def classify (switches : List (Switch Key)) (argument : List Char) :
    Except Complaint (Reading Key) :=
  match argument with
  | '-' :: _ :: _ =>
      match (named switches).lookup argument with
      | some switch => .ok (.switch switch argument none)
      | none =>
          let (stem, value?) := cutAtEquals argument
          match value?, (named switches).lookup stem with
          | some value, some switch => .ok (.switch switch stem (some value))
          | _, _ =>
              match candidates switches argument with
              | [(switch, name, attached?)] => .ok (.switch switch name attached?)
              | [] =>
                  if isNegativeNumber argument || argument.contains ' ' then .ok .operand
                  else .ok .unknownSwitch
              | several =>
                  .error (.ambiguous (String.ofList argument)
                    (several.map fun (_, name, _) => String.ofList name))
  | _ => .ok .operand

/-- What each argument is taken for; after the divider all are operands. -/
def classifyAll (switches : List (Switch Key)) :
    List String → Except Complaint (List (String × Reading Key))
  | [] => .ok []
  | argument :: rest =>
      if argument = "--" then
        .ok ((argument, .divider) :: rest.map fun operand => (operand, .operand))
      else do
        let reading ← classify switches argument.toList
        let others ← classifyAll switches rest
        return (argument, reading) :: others

structure Parsed (Key : Type) where
  /-- The switches with their values, in order. -/
  switches : List (Key × Option String) := []
  /-- The operands, in order; a void one is `none`. -/
  operands : List (Option String) := []
  /-- Arguments passed over. -/
  extras : List String := []
  /-- A switch after which nothing is read has been found. -/
  ended : Bool := false
  deriving Repr

/-- Notes a switch, unless nothing more is read. -/
def Parsed.addSwitch (parsed : Parsed Key) (switch : Switch Key) (value? : Option String) :
    Except Complaint (Parsed Key) :=
  let extended :=
    { parsed with
      switches := parsed.switches ++ [(switch.key, value?)], ended := switch.isLast }
  if parsed.ended then
    .ok parsed
  else
    match switch.value, value? with
    | .number, some text =>
        if (Text.whole? text.toList).isSome then .ok extended
        else .error (.notNumber switch.label text)
    | _, _ => .ok extended

def Parsed.addExtra (parsed : Parsed Key) (argument : String) : Parsed Key :=
  { parsed with extras := parsed.extras ++ [argument] }

def Parsed.addOperand (parsed : Parsed Key) (operand? : Option String) : Parsed Key :=
  { parsed with operands := parsed.operands ++ [operand?] }

/-- The switches in one argument: short ones without a value, then one that the rest of the
argument is attached to. -/
structure Cluster (Key : Type) where
  first : List (Switch Key) := []
  last : Switch Key
  attached? : Option (List Char) := none
  deriving Repr

def Cluster.add (switch : Switch Key) (cluster : Cluster Key) : Cluster Key :=
  { cluster with first := switch :: cluster.first }

/-- Reads the text after a short switch. -/
def readTail (switches : List (Switch Key)) (switch : Switch Key) :
    List Char → Except Complaint (Cluster Key)
  | [] => .ok { last := switch }
  | c :: rest =>
      if switch.takesValue then
        .ok { last := switch, attached? := some (c :: rest) }
      else
        -- Without a value, only a further short switch can follow.
        match (named switches).lookup ['-', c] with
        | none => .error (.ignoredValue switch.label (String.ofList (c :: rest)))
        | some next => (readTail switches next rest).map (Cluster.add switch)

def readCluster (switches : List (Switch Key)) (switch : Switch Key) (name : List Char) :
    Option (List Char) → Except Complaint (Cluster Key)
  | none => .ok { last := switch }
  | some attached =>
      if switch.takesValue then
        .ok { last := switch, attached? := some attached }
      else if attached = [] ∨ ['-', '-'].isPrefixOf name then
        .error (.ignoredValue switch.label (String.ofList attached))
      else
        readTail switches switch attached

def attachedValue? (attached : List Char) : Option String :=
  if attached = ['-', '-'] then none else some (String.ofList attached)

def Cluster.wantsValue (cluster : Cluster Key) : Bool :=
  cluster.last.takesValue && cluster.attached?.isNone

def Parsed.addCluster (parsed : Parsed Key) (cluster : Cluster Key) (value? : Option String) :
    Except Complaint (Parsed Key) := do
  let parsed ← cluster.first.foldlM (fun parsed switch => parsed.addSwitch switch none) parsed
  parsed.addSwitch cluster.last value?

inductive Neighbour where
  /-- An operand; a divider after it goes with it. -/
  | operand
  /-- The divider, which goes with the operand after it. -/
  | divider
  | other
  deriving DecidableEq, Repr

/-- The operand that an argument is.  The divider is one only after itself. -/
def operand? (before : Neighbour) (argument : String) : Option String :=
  if argument = "--" ∧ before ≠ .divider then none else some argument

/-- Reads arguments that have been classified.  `wanted` are the names of the operands
still to come. -/
def consume (switches : List (Switch Key)) (parsed : Parsed Key) (wanted : List String)
    (before : Neighbour) : List (String × Reading Key) → Except Complaint (Parsed Key)
  | [] => if wanted = [] then .ok parsed else .error (.missing wanted)
  | (argument, .operand) :: rest =>
      match wanted with
      | [] => consume switches (parsed.addExtra argument) [] .other rest
      | _ :: wanted =>
          consume switches (parsed.addOperand (operand? before argument)) wanted .operand rest
  | (argument, .divider) :: rest =>
      if before = .operand then
        consume switches parsed wanted .operand rest
      else if wanted ≠ [] ∧ rest ≠ [] then
        consume switches parsed wanted .divider rest
      else
        consume switches (parsed.addExtra argument) wanted .other rest
  | (argument, .unknownSwitch) :: rest =>
      consume switches (parsed.addExtra argument) wanted .other rest
  | (_, .switch switch name attached?) :: rest => do
      let cluster ← readCluster switches switch name attached?
      if cluster.wantsValue then
        match rest with
        | (value, .operand) :: rest =>
            let parsed ← parsed.addCluster cluster (some value)
            if parsed.ended then return parsed
            consume switches parsed wanted .other rest
        | _ => throw (.expectedValue cluster.last.label)
      else
        let parsed ← parsed.addCluster cluster (cluster.attached?.bind attachedValue?)
        if parsed.ended then return parsed
        consume switches parsed wanted .other rest

def parse (switches : List (Switch Key)) (operands : List String)
    (arguments : List String) : Except Complaint (Parsed Key) := do
  let classified ← classifyAll switches arguments
  consume switches {} operands .other classified

end Acceptor.CommandLine
