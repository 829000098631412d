import Acceptor.Json.Basic
import Acceptor.Text.Hexadecimal

/-!
Writing JSON: two spaces for each level, one item or field on a line, empty arrays and
objects on one line, and nothing but ASCII characters.
-/

namespace Acceptor.Json

def escapeUnit (unit : Nat) : List Char :=
  '\\' :: 'u' :: Text.hexDigits 4 unit

def escapeChar (c : Char) : List Char :=
  if c = '\x22' then ['\\', '\x22']
  else if c = '\\' then ['\\', '\\']
  else if c = '\n' then ['\\', 'n']
  else if c = '\r' then ['\\', 'r']
  else if c = '\t' then ['\\', 't']
  else if c = '\x08' then ['\\', 'b']
  else if c = '\x0c' then ['\\', 'f']
  else
    let n := c.toNat
    if 0x20 ≤ n ∧ n < 0x7F then [c]
    else if n < 0x10000 then escapeUnit n
    else
      -- Above U+FFFF a character takes two code units.
      let rest := n - 0x10000
      escapeUnit (0xD800 + rest / 0x400) ++ escapeUnit (0xDC00 + rest % 0x400)

def printString (text : String) : List Char :=
  '\x22' :: text.toList.flatMap escapeChar ++ ['\x22']

example : printString "é😀" = "\"\\u00e9\\ud83d\\ude00\"".toList := by decide

def newLine (level : Nat) : List Char :=
  '\n' :: List.replicate (2 * level) ' '

mutual

def printAt (level : Nat) : Json → List Char
  | null => "null".toList
  | boolean true => "true".toList
  | boolean false => "false".toList
  | integer value => (toString value).toList
  | real spelling => spelling.toList
  | string value => printString value
  | array [] => ['[', ']']
  | array (first :: rest) =>
      '[' :: newLine (level + 1) ++ printAt (level + 1) first ++
        printItems (level + 1) rest ++ newLine level ++ [']']
  | object [] => ['\x7b', '\x7d']
  | object ((name, value) :: rest) =>
      '\x7b' :: newLine (level + 1) ++ printString name ++ ':' :: ' ' ::
        printAt (level + 1) value ++ printFields (level + 1) rest ++ newLine level ++
        ['\x7d']

def printItems (level : Nat) : List Json → List Char
  | [] => []
  | item :: rest =>
      ',' :: newLine level ++ printAt level item ++ printItems level rest

def printFields (level : Nat) : List (String × Json) → List Char
  | [] => []
  | (name, value) :: rest =>
      ',' :: newLine level ++ printString name ++ ':' :: ' ' :: printAt level value ++
        printFields level rest

end

def print (value : Json) : String :=
  String.ofList (printAt 0 value)

example : print (.array [.integer 1, .array []]) = "[\n  1,\n  []\n]" := by cbv

end Acceptor.Json
