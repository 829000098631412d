import Acceptor.Formula.Reading

/-!
The grammar of formulas.

A formula is a sequence of tokens: spaces, changes of the font, parts with or without marks,
and fences, which are brackets that grow with what they enclose.  A part is a symbol, a group
in braces, an accent or a command with what it is put on.  `Pieces` holds the readers of what
may stand inside something else; `pieces` builds them for one level of nesting after another.
-/

namespace Acceptor.Formula

structure Pieces where
  token : List Char → Reading
  /-- A token that is no fence. -/
  simple : List Char → Reading
  fence : List Char → Reading
  /-- A part that a mark can be put on. -/
  placeable : List Char → Reading
  /-- Lines in braces, one below the other. -/
  stack : List Char → Reading

def Pieces.none : Pieces where
  token := .missing .placeable
  simple := .missing .placeable
  fence := .missing .placeable
  placeable := .missing .placeable
  stack := .missing .placeable

def isSymbol (c : Char) : Bool :=
  c.isAlphanum || " +-*/<>=:,.;!?&'@()[]|".toList.contains c ||
    (0x80 ≤ c.toNat && c.toNat ≤ 0x1FFFF)

def isEscapable (c : Char) : Bool :=
  "%$\x7b\x7d[]_|".toList.contains c

/-- What follows a symbol: a character, a character behind a backslash, or a name.  No letter
follows `\#`. -/
def afterSymbol? : List Char → Option (List Char)
  | '\\' :: '#' :: rest => if (rest.takeWhile Char.isAlpha).isEmpty then some rest else none
  | '\\' :: c :: rest =>
      if isEscapable c then some rest else afterName? symbolNames ('\\' :: c :: rest)
  | c :: rest => if isSymbol c then some rest else none
  | [] => none

/-- What follows an accent: a name or a sign behind a backslash. -/
def afterAccent? : List Char → Option (List Char)
  | '\\' :: c :: rest =>
      if accentSigns.contains c then some rest else afterName? accentNames ('\\' :: c :: rest)
  | _ => none

def command? (text : List Char) : Option (Command × List Char) :=
  Command.placeables.findSome? fun command =>
    (after? command.word text).map fun rest => (command, rest)

def afterFont (text : List Char) : List Char :=
  match after? "\\math" text with
  | none => text
  | some rest => (afterAny? fontNames (skip rest)).getD text

def readGroup (inner : Pieces) (text : List Char) : Reading :=
  (readWord "\x7b" (afterFont (skip text))).andThen fun rest =>
    (readMany inner.token rest).andThen fun rest =>
      .ofOption .groupEnd (skip rest) (after? "\x7d" (skip rest))

def readBraces (content : List Char → Reading) (text : List Char) : Reading :=
  (readWord "\x7b" text).andThen fun rest => (content rest).andThen (readWord "\x7d")

/-- Reads tokens in braces, at least one. -/
def readRequired (inner : Pieces) (text : List Char) : Reading :=
  (readBraces (readSome inner.token) text).within .requiredGroup

def readOptionalGroup (inner : Pieces) (text : List Char) : Reading :=
  (readBraces (readMany inner.token) text).within .optionalGroup

def readVerbatim (text : List Char) : Reading :=
  (readWord "\x7b" text).andThen fun rest =>
    .ofOption (.word "\x7d") rest ((enclosed? '\x7d' rest).map Prod.snd)

def readDegree (inner : Pieces) (text : List Char) : Reading :=
  let part (text : List Char) : Reading :=
    match skip text with
    | ']' :: rest => .missing .placeable (']' :: rest)
    | _ => inner.token text
  (readWord "[" text).andThen fun rest => (readSome part rest).andThen (readWord "]")

def readNumber (text : List Char) : Reading :=
  .ofOption .placeable (skip text) (afterNumber? (skip text))

def readStyle (text : List Char) : Reading :=
  .ofOption .placeable (skip text) (afterAny? ["0", "1", "2", "3"] (skip text))

def readTwice (piece : List Char → Reading) (text : List Char) : Reading :=
  (piece text).andThen piece

def readArguments (inner : Pieces) : Command → List Char → Reading
  | .operatorName | .boldSymbol => readBraces (readMany inner.simple)
  | .fraction | .displayFraction | .binomial => readTwice (readRequired inner)
  | .generalFraction => fun text =>
      (readTwice (readBraces (readOptional readDelimiter)) text).andThen fun rest =>
        (readBraces readNumber rest).andThen fun rest =>
          (readBraces (readOptional readStyle) rest).andThen (readTwice (readRequired inner))
  | .overset | .underset => readTwice (readOptionalGroup inner)
  | .root => fun text =>
      (readOptional (readDegree inner) text).andThen (readRequired inner)
  | .overline => readRequired inner
  | .text => readVerbatim
  | .stack => inner.stack
  | .phantom | .leftLap | .rightLap => readOptionalGroup inner
  | .space => readBraces readNumber

def readCommand (inner : Pieces) (command : Command) (text : List Char) : Reading :=
  ((readArguments inner command text).orElse fun _ =>
    .missing (.arguments command) (skip text)).settle

/-- Reads what has to follow an accent.  A fault inside is told of the whole. -/
def readAccented (inner : Pieces) (text : List Char) : Reading :=
  match (inner.placeable (skip text)) with
  | .read rest => .read rest
  | .missed _ rest => .stopped .incomplete (.expected .accented) (some rest)
  | .stopped .incomplete complaint rest? => .stopped .incomplete complaint rest?
  | .stopped _ _ rest? => .stopped .incomplete (.expected .accented) rest?

/-- Reads a part that a mark can be put on. -/
def readPlaceable (inner : Pieces) (text : List Char) : Reading :=
  -- A blank is a part as well, unless an accent follows it.
  match afterAccent? (skip text) with
  | some rest => readAccented inner rest
  | none =>
      match (afterSymbol? text).or (afterName? functionNames text) with
      | some rest => .read rest
      | none =>
          match command? text with
          | some (command, rest) => readCommand inner command rest
          | none =>
              match readGroup inner text with
              | .missed complaint rest =>
                  -- What a group that has begun lacks is told.
                  if rest.length < text.length then .missed complaint rest
                  else .missing .placeable text
              | reading => reading

def script? : List Char → Option (Script × List Char)
  | '_' :: rest => some (.subscript, rest)
  | '^' :: rest => some (.superscript, rest)
  | _ => none

def afterPrimes (text : List Char) : List Char :=
  (skip text).dropWhile (· = '\x27')

/-- Reads marks, as many as there are up to a number, each with what it sets lower or higher,
and primes behind them.  `seen` are the marks before. -/
def readScripts (placeable : List Char → Reading) (seen : List Script) (doubled? : Option Script) :
    Nat → List Char → Reading
  | 0, text => conclude text
  | count + 1, text =>
      match script? (skip text) with
      | none => conclude text
      | some (script, rest) =>
          let doubled? := doubled?.or (if script ∈ seen then some script else none)
          (placeable rest).settle.andThen
            (readScripts placeable (script :: seen) doubled? count)
where
  conclude (text : List Char) : Reading :=
    -- That a mark came twice is only found here, and so has no place.
    match doubled? with
    | some script => .stopped .wrong (.doubled script) none
    | none => .read (afterPrimes text)

/-- Reads a part with its marks or its primes, or marks alone. -/
def readMarked (placeable : List Char → Reading) (text : List Char) : Reading :=
  let text := skip text
  match placeable text with
  | .read rest =>
      if (script? (skip rest)).isSome then readScripts placeable [] none rest.length rest
      -- A prime is a part as well, and all that follow one another are read as one.
      else if text.head? = some '\x27' then .read (afterPrimes text)
      else .read (afterPrimes rest)
  | .missed complaint rest =>
      if (script? text).isSome then readScripts placeable [] none text.length text
      else .missed complaint rest
  | reading => reading

def readSimple (placeable : List Char → Reading) (text : List Char) : Reading :=
  match (afterAny? spaces (skip text)).or (afterName? fontNames (skip text)) with
  | some rest => .read rest
  | none =>
      match after? Command.space.word (skip text) with
      | some rest => readCommand .none .space rest
      | none => readMarked placeable text

def readFenced (inner : Pieces) (text : List Char) : Reading :=
  ((inner.simple text).orElse fun _ => inner.fence text).orElse fun _ =>
    (readWord "\\middle" text).andThen fun rest => (readDelimiter rest).settle

def readFence (inner : Pieces) (text : List Char) : Reading :=
  (readWord "\\left" text).andThen fun rest =>
    ((readDelimiter rest).andThen fun rest =>
      (readMany (readFenced inner) rest).andThen fun rest =>
        (readWord "\\right" rest).andThen readDelimiter).settle

def readUnknown (text : List Char) : Reading :=
  match control? text with
  | some (c :: name, _) => .stopped .wrong (.unknown (c :: name)) (some text)
  | _ => .missing .placeable text

def readToken (simple fence : List Char → Reading) (text : List Char) : Reading :=
  let text := skip text
  match simple text with
  -- Only the end of the text keeps the group open.
  | .missed (.expected .groupEnd) [] => .stopped .wrong (.expected (.word "\x7d")) (some [])
  | .missed _ _ => (fence text).orElse fun _ => readUnknown text
  | reading => reading.placed text

def readStackLine (inner : Pieces) (text : List Char) : Reading :=
  (readSome inner.token text).andThen (readMany (readWord "\\\\"))

/-- Reads a stack.  Its pieces are lines, stacks and texts between quotes. -/
def readStack (inner : Pieces) (text : List Char) : Reading :=
  let piece (text : List Char) : Reading :=
    ((Reading.ofOption .placeable text (afterQuotation? (skip text))).orElse fun _ =>
      inner.stack text).orElse fun _ => readStackLine inner text
  readBraces (readMany piece) text

/-- The readers of pieces that are nested to a given depth at most. -/
def pieces : (depth : Nat) → Pieces
  | 0 => .none
  | depth + 1 =>
      let inner := pieces depth
      let placeable := readPlaceable inner
      let simple := readSimple placeable
      let fence := readFence inner
      { token := readToken simple fence, simple, fence, placeable, stack := readStack inner }

/-- Reads a formula, which has at least one token. -/
def read (text : List Char) : Reading :=
  -- Each level of nesting takes a character at least.
  (readSome (pieces (text.length + 1)).token text).andThen fun rest =>
    if skip rest = [] then .read [] else .missing .ending (skip rest)

end Acceptor.Formula
