/-!
Tables as text: records end with `\n`, fields are separated by commas, and a field that
holds a comma, a double quote or `\n` stands between double quotes, its own double quotes
written twice.

`table` writes records, `records?` reads them.
-/

namespace Acceptor.Text.Csv

def needsQuotes (c : Char) : Bool :=
  c == ',' || c == '\x22' || c == '\n'

def doubleQuotes (text : List Char) : List Char :=
  text.flatMap fun c => if c = '\x22' then ['\x22', '\x22'] else [c]

def field (text : List Char) : List Char :=
  if text.any needsQuotes then '\x22' :: doubleQuotes text ++ ['\x22'] else text

def record : List (List Char) → List Char
  | [] => ['\n']
  | [last] => field last ++ ['\n']
  | first :: rest => field first ++ ',' :: record rest

def table (rows : List (List (List Char))) : List Char :=
  rows.flatMap record

example : field "a,b".toList = "\"a,b\"".toList ∧ field "a\r".toList = "a\r".toList := by decide

/-- What a reader has before it: the beginning of a field, a place inside a bare or a
quoted one, or the character after a double quote inside a quoted one. -/
inductive Place where
  | start
  | bare
  | quoted
  | afterQuote
  deriving DecidableEq, Repr

/-- Reads on in the middle of a record.  `cell` is the field being read, `row` the fields
before it, both with the latest first. -/
def recordsFrom (place : Place) (cell : List Char) (row : List (List Char)) :
    List Char → Option (List (List (List Char)))
  | [] =>
      match place, row with
      | .start, [] => some []
      | .quoted, _ => none
      | _, _ => some [(cell.reverse :: row).reverse]
  | c :: rest =>
      match place with
      | .quoted =>
          if c = '\x22' then
            recordsFrom .afterQuote cell row rest
          else
            recordsFrom .quoted (c :: cell) row rest
      | place =>
          if c = ',' then
            recordsFrom .start [] (cell.reverse :: row) rest
          else if c = '\n' then
            (recordsFrom .start [] [] rest).map ((cell.reverse :: row).reverse :: ·)
          else if c = '\x22' then
            match place with
            | .start => recordsFrom .quoted cell row rest
            | .afterQuote => recordsFrom .quoted (c :: cell) row rest
            | _ => recordsFrom .bare (c :: cell) row rest
          else
            recordsFrom .bare (c :: cell) row rest

/-- The records of a text, unless it ends inside a quoted field. -/
def records? (text : List Char) : Option (List (List (List Char))) :=
  recordsFrom .start [] [] text

end Acceptor.Text.Csv
